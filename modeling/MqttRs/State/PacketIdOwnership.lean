import MqttRs.State.Session.Connack
import MqttRs.State.Session.Ops

namespace MqttRs

/-- The number of unfinished exchanges under an identifier: outgoing flows, SUBSCRIBEs and UNSUBSCRIBEs. -/
def Session.exchanges (s : Session) (id : UInt16) : Nat :=
  (s.qosFlow.outgoing.contains id).toNat + (s.subscriptionManager.pendingSubscribes.contains id).toNat +
    (s.subscriptionManager.pendingUnsubscribes.contains id).toNat

/-- A session together with the identifiers that its user holds: allocated, and neither used nor released. -/
structure PacketIdUser where
  session : Session
  held : Finset UInt16

namespace PacketIdUser

/-- Packets are sent under held identifiers, only these are released, and only what is pending is ended. -/
def allowed (u : PacketIdUser) : SessionOp → Bool
  | .publishSent _ id | .releasePacketId id => decide (id ∈ u.held)
  | .subscribeSent id subscriptions => decide (id ∈ u.held) && !subscriptions.isEmpty
  | .unsubscribeSent id topicFilters => decide (id ∈ u.held) && !topicFilters.isEmpty
  | .abortPublish id => u.session.qosFlow.outgoing.contains id
  | .abortSubscribe id | .handleSuback id _ => u.session.subscriptionManager.pendingSubscribes.contains id
  | .abortUnsubscribe id | .handleUnsuback id _ => u.session.subscriptionManager.pendingUnsubscribes.contains id
  | _ => true

def heldAfter (u : PacketIdUser) : SessionOp → Finset UInt16
  | .allocatePacketId =>
    match u.session.allocatePacketId.1 with
    | some id => insert id u.held
    | none => u.held
  | .publishSent qos id => if (u.session.publishSent qos id).1 = .ok () then u.held.erase id else u.held
  | .subscribeSent id _ | .unsubscribeSent id _ | .releasePacketId id => u.held.erase id
  | .applyConnack params =>
    if (u.session.applyConnack params).1 = .ok () ∧ (u.session.cleanStart || !params.sessionPresent) = true then ∅
    else u.held
  | .connected sessionPresent => if u.session.cleanStart || !sessionPresent then ∅ else u.held
  | .reset => ∅
  | _ => u.held

def next (u : PacketIdUser) (op : SessionOp) : Option PacketIdUser :=
  if u.allowed op then some { session := u.session.perform op, held := u.heldAfter op } else none

/-- In how many ways an identifier is taken: held by the user, or by an unfinished exchange. -/
def owners (u : PacketIdUser) (id : UInt16) : Nat := (decide (id ∈ u.held)).toNat + u.session.exchanges id

/-- The identifiers in use are the disjoint union of the held ones and those of the unfinished exchanges, and a
    newly allocated one is none of them. -/
structure OwnedOnce (u : PacketIdUser) : Prop where
  inUse : ∀ id, u.owners id = (decide (id ∈ u.session.packetIdManager.inUse)).toNat
  allocated : ∀ id, u.session.allocatePacketId.1 = some id → u.owners id = 0

def Balanced (u : PacketIdUser) : Prop :=
  u.session.packetIdManager.Valid ∧
    ∀ id, u.owners id = (decide (id ∈ u.session.packetIdManager.inUse)).toNat

/-- What a call does to the pool, the unfinished exchanges and the held identifiers. -/
inductive IdEffect (u : PacketIdUser) (t : Session) (held : Finset UInt16) : Prop
  | unchanged (ids : t.packetIdManager = u.session.packetIdManager)
      (kept : ∀ id, t.exchanges id = u.session.exchanges id) (same : held = u.held)
  | discarded (ids : t.packetIdManager = .new) (none : ∀ id, t.exchanges id = 0) (same : held = ∅)
  | allocated (id : UInt16) (given : u.session.packetIdManager.allocate.1 = some id)
      (ids : t.packetIdManager = u.session.packetIdManager.allocate.2)
      (kept : ∀ id, t.exchanges id = u.session.exchanges id) (same : held = insert id u.held)
  | started (id : UInt16) (holds : id ∈ u.held) (ids : t.packetIdManager = u.session.packetIdManager)
      (begun : u.session.exchanges id = 0 → t.exchanges id = 1)
      (others : ∀ other, other ≠ id → t.exchanges other = u.session.exchanges other) (same : held = u.held.erase id)
  | finished (id : UInt16) (ids : t.packetIdManager = u.session.packetIdManager.release id)
      (ended : t.exchanges id + 1 = u.session.exchanges id)
      (others : ∀ other, other ≠ id → t.exchanges other = u.session.exchanges other) (same : held = u.held)
  | released (id : UInt16) (holds : id ∈ u.held) (ids : t.packetIdManager = u.session.packetIdManager.release id)
      (kept : ∀ id, t.exchanges id = u.session.exchanges id) (same : held = u.held.erase id)

variable {u v : PacketIdUser} {op : SessionOp} {t : Session} {held : Finset UInt16}

theorem exchanges_of_held (balanced : u.Balanced) {id : UInt16} (holds : id ∈ u.held) :
    u.session.exchanges id = 0 ∧ id ∈ u.session.packetIdManager.inUse := by
  have counted := balanced.2 id
  simp only [owners, holds, decide_true, Bool.toNat_true] at counted
  by_cases used : id ∈ u.session.packetIdManager.inUse
  · simp only [used, decide_true, Bool.toNat_true] at counted
    exact ⟨by omega, used⟩
  · simp only [used, decide_false, Bool.toNat_false] at counted
    omega

theorem inUse_of_exchanges (balanced : u.Balanced) {id : UInt16} (busy : 0 < u.session.exchanges id) :
    u.session.exchanges id = 1 ∧ id ∉ u.held ∧ id ∈ u.session.packetIdManager.inUse := by
  have counted := balanced.2 id
  simp only [owners] at counted
  by_cases used : id ∈ u.session.packetIdManager.inUse <;> by_cases holds : id ∈ u.held <;>
    simp only [used, holds, decide_true, decide_false, Bool.toNat_true, Bool.toNat_false] at counted
  · omega
  · exact ⟨by omega, holds, used⟩
  · omega
  · omega

theorem nonzero_of_held (balanced : u.Balanced) {id : UInt16} (holds : id ∈ u.held) : id ≠ 0 := by
  intro zero
  subst zero
  exact PacketIdManager.zero_not_inUse balanced.1 (exchanges_of_held balanced holds).2

theorem balanced_elsewhere (balanced : u.Balanced) (id : UInt16) (valid : t.packetIdManager.Valid)
    (here : owners { session := t, held } id = (decide (id ∈ t.packetIdManager.inUse)).toNat)
    (elsewhere : ∀ other, other ≠ id → t.exchanges other = u.session.exchanges other ∧
      (other ∈ held ↔ other ∈ u.held) ∧
      (other ∈ t.packetIdManager.inUse ↔ other ∈ u.session.packetIdManager.inUse)) :
    Balanced { session := t, held } := by
  refine ⟨valid, fun other => ?_⟩
  by_cases same : other = id
  · rw [same]
    exact here
  · obtain ⟨kept, holding, taken⟩ := elsewhere other same
    have before := balanced.2 other
    simp only [owners, kept, holding, taken] at before ⊢
    exact before

theorem allocated_balanced (balanced : u.Balanced) {id : UInt16}
    (given : u.session.packetIdManager.allocate.1 = some id)
    (ids : t.packetIdManager = u.session.packetIdManager.allocate.2)
    (kept : ∀ id, t.exchanges id = u.session.exchanges id) :
    Balanced { session := t, held := insert id u.held } := by
  rcases PacketIdManager.allocate_cases balanced.1 with ⟨id', result, unused, inUse, valid⟩ | result
  · obtain rfl : id' = id := Option.some.inj (result.symm.trans given)
    apply balanced_elsewhere balanced id' (by rw [ids]; exact valid)
    · have before := balanced.2 id'
      simp only [owners, unused, decide_false, Bool.toNat_false] at before
      simp only [owners, ids, inUse, kept, Finset.mem_insert_self, decide_true, Bool.toNat_true]
      omega
    · intro other different
      simp only [ids, inUse, kept, Finset.mem_insert, different, false_or, and_self]
  · rw [result] at given
    cases given

theorem started_balanced (balanced : u.Balanced) {id : UInt16} (holds : id ∈ u.held)
    (ids : t.packetIdManager = u.session.packetIdManager) (begun : u.session.exchanges id = 0 → t.exchanges id = 1)
    (others : ∀ other, other ≠ id → t.exchanges other = u.session.exchanges other) :
    Balanced { session := t, held := u.held.erase id } := by
  obtain ⟨free, used⟩ := exchanges_of_held balanced holds
  apply balanced_elsewhere balanced id (by rw [ids]; exact balanced.1)
  · simp [owners, ids, begun free, used]
  · intro other different
    simp [others other different, ids, different]

theorem finished_balanced (balanced : u.Balanced) {id : UInt16}
    (ids : t.packetIdManager = u.session.packetIdManager.release id)
    (ended : t.exchanges id + 1 = u.session.exchanges id)
    (others : ∀ other, other ≠ id → t.exchanges other = u.session.exchanges other) :
    Balanced { session := t, held := u.held } := by
  have inUse := PacketIdManager.release_inUse balanced.1 id
  obtain ⟨one, unheld, -⟩ := inUse_of_exchanges balanced (show 0 < u.session.exchanges id by omega)
  apply balanced_elsewhere balanced id (by rw [ids]; exact PacketIdManager.release_valid balanced.1 id)
  · have none : t.exchanges id = 0 := by omega
    simp [owners, ids, inUse, unheld, none]
  · intro other different
    simp [others other different, ids, inUse, different]

theorem released_balanced (balanced : u.Balanced) {id : UInt16} (holds : id ∈ u.held)
    (ids : t.packetIdManager = u.session.packetIdManager.release id)
    (kept : ∀ id, t.exchanges id = u.session.exchanges id) :
    Balanced { session := t, held := u.held.erase id } := by
  have inUse := PacketIdManager.release_inUse balanced.1 id
  obtain ⟨free, -⟩ := exchanges_of_held balanced holds
  apply balanced_elsewhere balanced id (by rw [ids]; exact PacketIdManager.release_valid balanced.1 id)
  · simp [owners, ids, inUse, kept, free]
  · intro other different
    simp [kept, ids, inUse, different]

theorem effect_balanced (balanced : u.Balanced) (effect : IdEffect u t held) :
    Balanced { session := t, held } := by
  cases effect with
  | unchanged ids kept same =>
    subst same
    refine ⟨by rw [ids]; exact balanced.1, fun other => ?_⟩
    have before := balanced.2 other
    simp only [owners, ids, kept] at before ⊢
    exact before
  | discarded ids none same =>
    subst same
    refine ⟨by rw [ids]; exact PacketIdManager.new_valid, fun other => ?_⟩
    simp [owners, ids, none, PacketIdManager.new]
  | allocated id given ids kept same =>
    subst same
    exact allocated_balanced balanced given ids kept
  | started id holds ids begun others same =>
    subst same
    exact started_balanced balanced holds ids begun others
  | finished id ids ended others same =>
    subst same
    exact finished_balanced balanced ids ended others
  | released id holds ids kept same =>
    subst same
    exact released_balanced balanced holds ids kept

section Effects

variable {s : Session} {packetId : UInt16}

theorem exchanges_congr (outgoing : ∀ id, t.qosFlow.outgoing.contains id = s.qosFlow.outgoing.contains id)
    (pending : s.subscriptionManager.SamePending t.subscriptionManager) (id : UInt16) :
    t.exchanges id = s.exchanges id := by
  unfold Session.exchanges
  rw [outgoing, pending.subscribes, pending.unsubscribes]

theorem unchanged_of_congr (ids : t.packetIdManager = u.session.packetIdManager)
    (outgoing : ∀ id, t.qosFlow.outgoing.contains id = u.session.qosFlow.outgoing.contains id)
    (subscriptions : t.subscriptionManager = u.session.subscriptionManager) : IdEffect u t u.held :=
  .unchanged ids (exchanges_congr outgoing (subscriptions ▸ .refl _)) rfl

theorem countIncoming_ids (s : Session) (packetId : UInt16) :
    (s.countIncoming packetId).2.packetIdManager = s.packetIdManager ∧
      (s.countIncoming packetId).2.qosFlow = s.qosFlow ∧
      (s.countIncoming packetId).2.subscriptionManager = s.subscriptionManager := by
  unfold Session.countIncoming
  split <;> exact ⟨rfl, rfl, rfl⟩

theorem handlePublish_effect (u : PacketIdUser) (received : QosFlowManager → UInt16 → Action × QosFlowManager)
    (outgoing : ∀ m id, (received m id).2.outgoing = m.outgoing) (packetId : UInt16) :
    IdEffect u (u.session.handlePublish received packetId).2 u.held := by
  obtain ⟨ids, flows, subscriptions⟩ := countIncoming_ids u.session packetId
  unfold Session.handlePublish
  split <;> rename_i counted <;> rw [counted] at ids flows subscriptions
  · exact unchanged_of_congr ids (fun id => by rw [flows]) subscriptions
  · refine unchanged_of_congr ids (fun id => ?_) subscriptions
    rw [← flows]
    exact congrArg (fun flows => flows.contains id) (outgoing _ packetId)

theorem ended_effect (busy : u.session.qosFlow.outgoing.contains packetId = true)
    (ids : t.packetIdManager = u.session.packetIdManager.release packetId)
    (outgoing : t.qosFlow.outgoing = u.session.qosFlow.outgoing.erase packetId)
    (subscriptions : t.subscriptionManager = u.session.subscriptionManager) : IdEffect u t u.held := by
  refine .finished packetId ids ?_ ?_ rfl
  · simp only [Session.exchanges, outgoing, subscriptions, OrderedMap.contains_erase, decide_true, Bool.not_true,
      Bool.false_and, Bool.toNat_false, busy, Bool.toNat_true]
    omega
  · intro other different
    simp [Session.exchanges, outgoing, subscriptions, different]

theorem handleFinalAck_effect (u : PacketIdUser) (expected : FlowState) (packetId : UInt16) :
    IdEffect u (u.session.handleFinalAck expected packetId).2 u.held := by
  rcases u.session.handleFinalAck_cases expected packetId with ⟨flow, present, -, result⟩ | result | result <;>
    rw [result]
  · exact ended_effect (OrderedMap.contains_iff.mpr ⟨flow, present⟩) rfl rfl rfl
  all_goals exact unchanged_of_congr rfl (fun _ => rfl) rfl

theorem contains_overwrite {m : OrderedMap UInt16 OutgoingFlow} {flow : OutgoingFlow}
    (present : m.get? packetId = some flow) (replacement : OutgoingFlow) (id : UInt16) :
    (m.insert packetId replacement).contains id = m.contains id := by
  by_cases same : id = packetId
  · subst same
    simp [OrderedMap.contains, present]
  · simp [same]

theorem handlePubrec_effect (u : PacketIdUser) (packetId : UInt16) (reasonCode : UInt8) :
    IdEffect u (u.session.handlePubrec packetId reasonCode).2 u.held := by
  rcases u.session.handlePubrec_cases packetId reasonCode with
    ⟨flow, present, -, -, result⟩ | ⟨flow, present, -, -, result⟩ | result | result | result <;> rw [result]
  · exact ended_effect (OrderedMap.contains_iff.mpr ⟨flow, present⟩) rfl rfl rfl
  · exact unchanged_of_congr rfl (contains_overwrite present _) rfl
  all_goals exact unchanged_of_congr rfl (fun _ => rfl) rfl

theorem resendPublish_effect (u : PacketIdUser) (packetId : UInt16) :
    IdEffect u (u.session.resendPublish packetId).2 u.held := by
  rcases u.session.resendPublish_cases packetId with ⟨flow, present, -, -, sent⟩ | same
  · rw [sent]
    exact unchanged_of_congr rfl (contains_overwrite present _) rfl
  · rw [same]
    exact unchanged_of_congr rfl (fun _ => rfl) rfl

theorem applyConnack_effect (u : PacketIdUser) (params : ConnackParams) :
    IdEffect u (u.session.applyConnack params).2 (u.heldAfter (.applyConnack params)) := by
  rcases u.session.applyConnack_cases params with ⟨-, -, accepted⟩ | ⟨refused, same⟩
  · have eq := u.session.acceptConnack_eq params
    simp only [heldAfter, accepted, true_and]
    by_cases discards : (u.session.cleanStart || !params.sessionPresent) = true
    · simp only [discards, ↓reduceIte] at eq ⊢
      rw [eq]
      exact .discarded rfl (fun _ => rfl) rfl
    · simp only [discards, Bool.false_eq_true, ↓reduceIte] at eq ⊢
      rw [eq]
      exact unchanged_of_congr rfl (fun _ => rfl) rfl
  · simp only [heldAfter, refused, false_and, ↓reduceIte, same]
    exact unchanged_of_congr rfl (fun _ => rfl) rfl

theorem connected_effect (u : PacketIdUser) (sessionPresent : Bool) :
    IdEffect u (u.session.connected sessionPresent) (u.heldAfter (.connected sessionPresent)) := by
  simp only [heldAfter, Session.connected]
  split
  · exact .discarded rfl (fun _ => rfl) rfl
  · exact unchanged_of_congr rfl (fun _ => rfl) rfl

theorem connectSent_outgoing (s : Session) (id : UInt16) :
    s.connectSent.qosFlow.outgoing.contains id = s.qosFlow.outgoing.contains id :=
  OrderedMap.contains_mapValues _ _ _

theorem connectSentWithAuth_effect (u : PacketIdUser) (method : String) :
    IdEffect u (u.session.connectSentWithAuth method).2 u.held := by
  unfold Session.connectSentWithAuth
  split
  · exact unchanged_of_congr rfl (fun _ => rfl) rfl
  · exact unchanged_of_congr rfl (connectSent_outgoing u.session) rfl

theorem configureForConnect_effect (u : PacketIdUser) (keepAlive : UInt16) (expiry : UInt32)
    (aliases receive : UInt16) (size : UInt32) :
    IdEffect u (u.session.configureForConnect keepAlive expiry aliases receive size).2 u.held := by
  unfold Session.configureForConnect
  dsimp only
  split
  · exact unchanged_of_congr rfl (fun _ => rfl) rfl
  · split <;> exact unchanged_of_congr rfl (fun _ => rfl) rfl

theorem allocatePacketId_effect (balanced : u.Balanced) :
    IdEffect u u.session.allocatePacketId.2 (u.heldAfter .allocatePacketId) := by
  rcases PacketIdManager.allocate_cases balanced.1 with ⟨id, given, -, -, -⟩ | none
  · have held : u.heldAfter .allocatePacketId = insert id u.held := by
      simp only [heldAfter, Session.allocatePacketId, given]
    exact .allocated id given rfl (fun _ => rfl) held
  · have held : u.heldAfter .allocatePacketId = u.held := by
      simp only [heldAfter, Session.allocatePacketId, none]
    exact .unchanged (congrArg Prod.snd none) (fun _ => rfl) held

/-- A PUBLISH that is sent takes its held identifier into a new outgoing flow; one that is refused leaves it held. -/
theorem publishSent_effect (balanced : u.Balanced) (qos : QoS) (holds : packetId ∈ u.held) :
    IdEffect u (u.session.publishSent qos packetId).2 (u.heldAfter (.publishSent qos packetId)) := by
  rcases u.session.publishSent_cases qos packetId with ⟨-, nonzero, -, sent⟩ | ⟨reason, refused⟩
  · obtain ⟨free, -⟩ := exchanges_of_held balanced holds
    have absent : u.session.qosFlow.outgoing.contains packetId = false := by
      have bound : (u.session.qosFlow.outgoing.contains packetId).toNat ≤ u.session.exchanges packetId := by
        unfold Session.exchanges
        omega
      cases known : u.session.qosFlow.outgoing.contains packetId with
      | false => rfl
      | true =>
        rw [known, free] at bound
        cases bound
    have absent := OrderedMap.contains_false_iff.mp absent
    simp only [heldAfter, sent, QosFlowManager.publishSent_new nonzero absent, ↓reduceIte]
    refine .started packetId holds rfl ?_ ?_ rfl
    · intro none
      simp only [Session.exchanges] at none ⊢
      simp only [OrderedMap.contains_insert, decide_true, Bool.true_or, Bool.toNat_true]
      omega
    · intro other different
      simp [Session.exchanges, different]
  · simp only [heldAfter, refused, reduceCtorEq, ↓reduceIte]
    exact unchanged_of_congr rfl (fun _ => rfl) rfl

theorem subscribeSent_effect (balanced : u.Balanced) {subscriptions : List SubscriptionEntry}
    (holds : packetId ∈ u.held) (nonempty : subscriptions.isEmpty = false) :
    IdEffect u (u.session.subscribeSent packetId subscriptions) (u.held.erase packetId) := by
  have nonzero : packetId ≠ 0 := nonzero_of_held balanced holds
  have pending : u.session.subscriptionManager.subscribeSent packetId subscriptions =
      { u.session.subscriptionManager with
        pendingSubscribes := u.session.subscriptionManager.pendingSubscribes.insert packetId subscriptions } := by
    simp [SubscriptionManager.subscribeSent, nonzero, nonempty]
  unfold Session.subscribeSent
  rw [pending]
  refine .started packetId holds rfl ?_ ?_ rfl
  · intro none
    simp only [Session.exchanges] at none ⊢
    simp only [OrderedMap.contains_insert, decide_true, Bool.true_or, Bool.toNat_true]
    omega
  · intro other different
    simp [Session.exchanges, different]

theorem unsubscribeSent_effect (balanced : u.Balanced) {topicFilters : List String}
    (holds : packetId ∈ u.held) (nonempty : topicFilters.isEmpty = false) :
    IdEffect u (u.session.unsubscribeSent packetId topicFilters) (u.held.erase packetId) := by
  have nonzero : packetId ≠ 0 := nonzero_of_held balanced holds
  have pending : u.session.subscriptionManager.unsubscribeSent packetId topicFilters =
      { u.session.subscriptionManager with
        pendingUnsubscribes := u.session.subscriptionManager.pendingUnsubscribes.insert packetId topicFilters } := by
    simp [SubscriptionManager.unsubscribeSent, nonzero, nonempty]
  unfold Session.unsubscribeSent
  rw [pending]
  refine .started packetId holds rfl ?_ ?_ rfl
  · intro none
    simp only [Session.exchanges] at none ⊢
    simp only [OrderedMap.contains_insert, decide_true, Bool.true_or, Bool.toNat_true]
    omega
  · intro other different
    simp [Session.exchanges, different]

theorem subscribe_ended (pending : u.session.subscriptionManager.pendingSubscribes.contains packetId = true)
    (ids : t.packetIdManager = u.session.packetIdManager.release packetId) (flows : t.qosFlow = u.session.qosFlow)
    (ends : t.subscriptionManager.pendingSubscribes =
      u.session.subscriptionManager.pendingSubscribes.erase packetId)
    (others : t.subscriptionManager.pendingUnsubscribes = u.session.subscriptionManager.pendingUnsubscribes) :
    IdEffect u t u.held := by
  refine .finished packetId ids ?_ ?_ rfl
  · simp only [Session.exchanges, flows, ends, others, OrderedMap.contains_erase, decide_true, Bool.not_true,
      Bool.false_and, Bool.toNat_false, pending, Bool.toNat_true]
    omega
  · intro other different
    simp [Session.exchanges, flows, ends, others, different]

theorem unsubscribe_ended (pending : u.session.subscriptionManager.pendingUnsubscribes.contains packetId = true)
    (ids : t.packetIdManager = u.session.packetIdManager.release packetId) (flows : t.qosFlow = u.session.qosFlow)
    (ends : t.subscriptionManager.pendingUnsubscribes =
      u.session.subscriptionManager.pendingUnsubscribes.erase packetId)
    (others : t.subscriptionManager.pendingSubscribes = u.session.subscriptionManager.pendingSubscribes) :
    IdEffect u t u.held := by
  refine .finished packetId ids ?_ ?_ rfl
  · simp only [Session.exchanges, flows, ends, others, OrderedMap.contains_erase, decide_true, Bool.not_true,
      Bool.false_and, Bool.toNat_false, pending, Bool.toNat_true]
  · intro other different
    simp [Session.exchanges, flows, ends, others, different]

theorem handleSuback_effect (pending : u.session.subscriptionManager.pendingSubscribes.contains packetId = true)
    (reasonCodes : List UInt8) : IdEffect u (u.session.handleSuback packetId reasonCodes).2 u.held := by
  obtain ⟨ends, others⟩ := u.session.subscriptionManager.subackReceived_pending packetId reasonCodes
  unfold Session.handleSuback
  dsimp only
  split <;> exact subscribe_ended pending rfl rfl ends others

theorem handleUnsuback_effect
    (pending : u.session.subscriptionManager.pendingUnsubscribes.contains packetId = true)
    (reasonCodes : List UInt8) : IdEffect u (u.session.handleUnsuback packetId reasonCodes).2 u.held := by
  obtain ⟨ends, others⟩ := u.session.subscriptionManager.unsubackReceived_pending packetId reasonCodes
  unfold Session.handleUnsuback
  dsimp only
  split <;> exact unsubscribe_ended pending rfl rfl ends others

end Effects

theorem perform_effect (balanced : u.Balanced) (permitted : u.allowed op = true) :
    IdEffect u (u.session.perform op) (u.heldAfter op) := by
  cases op
  case configureForConnect => exact configureForConnect_effect u ..
  case applyConnack params => exact applyConnack_effect u params
  case connectSent => exact unchanged_of_congr rfl (connectSent_outgoing u.session) rfl
  case connectSentWithAuth method => exact connectSentWithAuth_effect u method
  case connected sessionPresent => exact connected_effect u sessionPresent
  case handlePuback id => exact handleFinalAck_effect u .awaitingPuback id
  case handlePubrec id reasonCode => exact handlePubrec_effect u id reasonCode
  case handlePubrel id =>
    have outgoing := u.session.qosFlow.pubrelReceived_outgoing id
    exact unchanged_of_congr rfl (fun other => congrArg (fun m => m.contains other) outgoing) rfl
  case handlePubcomp id => exact handleFinalAck_effect u .awaitingPubcomp id
  case handlePublishQos1 id => exact handlePublish_effect u QosFlowManager.publishReceivedQos1 (fun _ _ => rfl) id
  case handlePublishQos2 id => exact handlePublish_effect u QosFlowManager.publishReceivedQos2 (fun _ _ => rfl) id
  case pubackSent id =>
    have outgoing := u.session.qosFlow.pubackSent_outgoing id
    exact unchanged_of_congr rfl (fun other => congrArg (fun m => m.contains other) outgoing) rfl
  case pubrecSent reasonCode =>
    simp only [Session.perform, Session.pubrecSent]
    split <;> exact unchanged_of_congr rfl (fun _ => rfl) rfl
  case resendPublish id => exact resendPublish_effect u id
  case allocatePacketId => exact allocatePacketId_effect balanced
  case publishSent qos id => exact publishSent_effect balanced qos (of_decide_eq_true permitted)
  case abortPublish id => exact ended_effect permitted rfl rfl rfl
  case releasePacketId id => exact .released id (of_decide_eq_true permitted) rfl (fun _ => rfl) rfl
  case subscribeSent id subscriptions =>
    simp only [allowed, Bool.and_eq_true, decide_eq_true_eq, Bool.not_eq_true'] at permitted
    exact subscribeSent_effect balanced permitted.1 permitted.2
  case unsubscribeSent id topicFilters =>
    simp only [allowed, Bool.and_eq_true, decide_eq_true_eq, Bool.not_eq_true'] at permitted
    exact unsubscribeSent_effect balanced permitted.1 permitted.2
  case abortSubscribe id => exact subscribe_ended permitted rfl rfl rfl rfl
  case abortUnsubscribe id => exact unsubscribe_ended permitted rfl rfl rfl rfl
  case handleSuback id reasonCodes => exact handleSuback_effect permitted reasonCodes
  case handleUnsuback id reasonCodes => exact handleUnsuback_effect permitted reasonCodes
  case reset => exact .discarded rfl (fun _ => rfl) rfl
  all_goals exact unchanged_of_congr rfl (fun _ => rfl) rfl

theorem next_eq_some (step : u.next op = some v) : u.allowed op = true ∧ v.session = u.session.perform op := by
  simp only [next] at step
  split at step <;> cases step
  exact ⟨‹_›, rfl⟩

theorem next_balanced (balanced : u.Balanced) (step : Steps next u op v) : v.Balanced := by
  simp only [Steps, next] at step
  split at step
  · rename_i permitted
    cases step
    exact effect_balanced balanced (perform_effect balanced permitted)
  · cases step

theorem ownedOnce_of_balanced (balanced : u.Balanced) : u.OwnedOnce := by
  refine ⟨balanced.2, fun id given => ?_⟩
  rcases PacketIdManager.allocate_cases balanced.1 with ⟨free, result, unused, -, -⟩ | none
  · obtain rfl : free = id := Option.some.inj (result.symm.trans given)
    rw [balanced.2 free]
    simp [unused]
  · rw [Session.allocatePacketId, none] at given
    cases given

def start (fresh : Session) : PacketIdUser := { session := fresh, held := ∅ }

theorem start_balanced {version : MqttVersion} {clientId : String} {cleanStart : Bool} {fresh : Session}
    (created : Session.new version clientId cleanStart = .ok fresh) : (start fresh).Balanced := by
  rw [Session.new_eq_ok created]
  exact ⟨PacketIdManager.new_valid, fun _ => rfl⟩

/-- In every run that follows the rules for identifiers, each identifier in use has exactly one owner, and a newly
    allocated one has none. -/
theorem packet_ids_owned_once {version : MqttVersion} {clientId : String} {cleanStart : Bool} {fresh : Session}
    {ops : List SessionOp} (created : Session.new version clientId cleanStart = .ok fresh)
    (run : Run (Steps next) (start fresh) ops u) : u.OwnedOnce :=
  ownedOnce_of_balanced (run.invariant next_balanced (start_balanced created))

def exchangesRun : List SessionOp :=
  [.connectSent, .applyConnack (.successV5 false none), .allocatePacketId, .publishSent .exactlyOnce 1,
    .allocatePacketId, .unsubscribeSent 2 ["a"], .allocatePacketId, .releasePacketId 3, .disconnected,
    .connectSent, .applyConnack (.successV5 true none), .handlePubrec 1 0x87, .handleUnsuback 2 [0x11, 0x11],
    .allocatePacketId]

theorem exchangesRun_owned_once :
    ∃ u, Run (Steps next) (start (Session.initial .v5 "client" false)) exchangesRun u ∧ u.OwnedOnce := by
  have created : Session.new .v5 "client" false = .ok (Session.initial .v5 "client" false) := rfl
  have completes : (runFrom next (start (Session.initial .v5 "client" false)) exchangesRun).isSome = true := by
    decide
  obtain ⟨u, ends⟩ := Option.isSome_iff_exists.mp completes
  have run := run_of_runFrom ends
  exact ⟨u, run, packet_ids_owned_once created run⟩

end PacketIdUser

end MqttRs
