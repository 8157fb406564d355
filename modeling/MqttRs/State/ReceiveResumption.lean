import MqttRs.State.ReceiveQuota
import MqttRs.State.Session.Connack

namespace MqttRs

/-- A session together with the identifiers of the PUBLISH packets let in since its last `connect_sent`, and the
    action that its user has still to answer. -/
structure ResumingSubscriber where
  session : Session
  received : Finset UInt16
  pending : Option Action

namespace ResumingSubscriber

def isOpen (r : ResumingSubscriber) (id : UInt16) : Bool := r.session.qosFlow.hasIncomingFlow id

/-- Each action is answered before the next packet of a flow, only actions are answered, and no PUBLISH of an open
    flow is repeated on one connection. Connections are opened through `connect_sent` and `apply_connack`. -/
def allowed (r : ResumingSubscriber) : SessionOp → Bool
  | .handlePublishQos1 id | .handlePublishQos2 id => r.pending.isNone && !(r.isOpen id && decide (id ∈ r.received))
  | .handlePubrel _ => r.pending.isNone
  | .pubackSent id => r.pending = some (.sendPuback id)
  | .pubrecSent reasonCode =>
    match r.pending with
    | some (.sendPubrec _ _) => decide (reasonCode < 0x80)
    | _ => false
  | .pubcompSent =>
    match r.pending with
    | some (.sendPubcomp _) => true
    | _ => false
  | .configureForConnect .. => !r.session.isActive
  | .connected _ => false
  | _ => true

def publishHandled (r : ResumingSubscriber) (id : UInt16) (handled : Except FlowControlError Action × Session) :
    ResumingSubscriber :=
  match handled.1 with
  | .ok action => { session := handled.2, received := insert id r.received, pending := some action }
  | .error _ => { r with session := handled.2 }

def performed (r : ResumingSubscriber) (op : SessionOp) : ResumingSubscriber :=
  match op with
  | .handlePublishQos1 id => r.publishHandled id (r.session.handlePublishQos1 id)
  | .handlePublishQos2 id => r.publishHandled id (r.session.handlePublishQos2 id)
  | .handlePubrel id =>
    match (r.session.handlePubrel id).1 with
    | .ok (some (.sendPubcomp id)) => { r with session := r.session.perform op, pending := some (.sendPubcomp id) }
    | _ => { r with session := r.session.perform op }
  | .pubackSent _ | .pubrecSent _ | .pubcompSent => { r with session := r.session.perform op, pending := none }
  | .connectSent | .reset => { r with session := r.session.perform op, received := ∅ }
  | .connectSentWithAuth _ =>
    if r.session.isV5 then { r with session := r.session.perform op, received := ∅ }
    else { r with session := r.session.perform op }
  | _ => { r with session := r.session.perform op }

def next (r : ResumingSubscriber) (op : SessionOp) : Option ResumingSubscriber :=
  if r.allowed op then some (r.performed op) else none

def incomingCount (r : ResumingSubscriber) : Nat := r.session.flowControl.incomingCount.toNat

def ownReceiveMaximum (r : ResumingSubscriber) : Nat := r.session.flowControl.ownReceiveMaximum.toNat

def finishing (r : ResumingSubscriber) : Option UInt16 :=
  match r.pending with
  | some (.sendPuback id) | some (.sendPubcomp id) => some id
  | _ => none

def unacknowledged (r : ResumingSubscriber) : Finset UInt16 :=
  r.received.filter fun id => r.isOpen id = true ∨ r.finishing = some id

/-- The counter covers the unacknowledged PUBLISH packets of this connection, there are never more of them than
    announced, and at that limit a new PUBLISH is refused. -/
structure Covered (r : ResumingSubscriber) : Prop where
  counted : r.unacknowledged.card ≤ r.incomingCount
  within : r.session.isActive = true → r.unacknowledged.card ≤ r.ownReceiveMaximum
  refused : ∀ id, r.isOpen id = false → r.ownReceiveMaximum ≤ r.unacknowledged.card →
    (r.session.handlePublishQos1 id).1 = .error .receiveMaximumExceeded ∧
      (r.session.handlePublishQos2 id).1 = .error .receiveMaximumExceeded

/-- A call for a flow of an earlier connection: its PUBLISH is repeated, or its PUBACK or PUBCOMP is sent. -/
def usesEarlierFlow (r : ResumingSubscriber) : SessionOp → Bool
  | .handlePublishQos1 id | .handlePublishQos2 id => r.isOpen id
  | .pubackSent _ | .pubcompSent => r.finishing.any (fun id => decide (id ∉ r.received))
  | _ => false

def SparesSlot (r : ResumingSubscriber) (op : SessionOp) : Prop :=
  r.usesEarlierFlow op = true →
    r.unacknowledged.card < r.incomingCount ∨ (r.finishing.isSome = true ∧ r.incomingCount = 0)

instance (r : ResumingSubscriber) (op : SessionOp) : Decidable (SparesSlot r op) :=
  inferInstanceAs (Decidable (_ → _))

/-- The counter covers the unacknowledged packets, and a pending answer is for a flow that it ends. -/
structure Sound (r : ResumingSubscriber) : Prop where
  counted : r.unacknowledged.card ≤ r.incomingCount
  within : r.session.isActive = true → r.incomingCount ≤ r.ownReceiveMaximum
  puback : ∀ id, r.pending = some (.sendPuback id) →
    r.session.qosFlow.incoming.get? id = some .incomingAwaitingPuback ∨ r.session.qosFlow.incoming.get? id = none
  pubcomp : ∀ id, r.pending = some (.sendPubcomp id) → r.session.qosFlow.incoming.get? id = none

/-- No new incoming flow and the same counter. -/
structure FewerIncoming (s t : Session) : Prop where
  flows : ∀ id, t.qosFlow.incoming.get? id = s.qosFlow.incoming.get? id ∨ t.qosFlow.incoming.get? id = none
  incomingCount : t.flowControl.incomingCount = s.flowControl.incomingCount
  ownReceiveMaximum : t.flowControl.ownReceiveMaximum = s.flowControl.ownReceiveMaximum
  active : t.isActive = true → s.isActive = true

def keepsIncoming : SessionOp → Bool
  | .handlePublishQos1 _ | .handlePublishQos2 _ | .handlePubrel _ => false
  | .pubackSent _ | .pubrecSent _ | .pubcompSent => false
  | .connectSent | .connectSentWithAuth _ | .connected _ | .configureForConnect .. | .reset => false
  | _ => true

section Frame

variable {s t : Session} {op : SessionOp} {id : UInt16}

theorem fewerIncoming_of_same (flows : t.qosFlow.incoming = s.qosFlow.incoming)
    (incomingCount : t.flowControl.incomingCount = s.flowControl.incomingCount)
    (ownReceiveMaximum : t.flowControl.ownReceiveMaximum = s.flowControl.ownReceiveMaximum)
    (connectionState : t.connectionState = s.connectionState) : FewerIncoming s t := by
  refine ⟨fun id => .inl (by rw [flows]), incomingCount, ownReceiveMaximum, fun active => ?_⟩
  unfold Session.isActive at active ⊢
  rwa [connectionState] at active

theorem applyConnack_fewerIncoming (s : Session) (params : ConnackParams) :
    FewerIncoming s (s.applyConnack params).2 := by
  rcases s.applyConnack_cases params with ⟨checked, -, accepted⟩ | ⟨-, same⟩
  · have flows := s.acceptConnack_qosFlow params
    have control := s.acceptConnack_flowControl params
    have connecting : s.connectionState = .connecting := by
      by_contra other
      simp [Session.checkConnack, other] at checked
    rw [accepted]
    refine ⟨fun id => ?_, ?_, ?_, fun _ => by simp [Session.isActive, connecting]⟩
    · rw [flows]
      split
      · exact .inr rfl
      · exact .inl rfl
    all_goals
      rw [control]
      cases params.receiveMaximum <;> rfl
  · rw [same]
    exact fewerIncoming_of_same rfl rfl rfl rfl

theorem perform_fewerIncoming (keeps : keepsIncoming op = true) : FewerIncoming s (s.perform op) := by
  cases op
  case applyConnack params => exact applyConnack_fewerIncoming s params
  case abortPublish id =>
    refine ⟨fun other => ?_, ?_, ?_, fun active => active⟩
    · simp only [Session.perform, Session.abortPublish, QosFlowManager.release, OrderedMap.get?_erase]
      split
      · exact .inr rfl
      · exact .inl rfl
    all_goals
      simp only [Session.perform, Session.abortPublish]
      split <;> rfl
  case disconnectSent | disconnectReceived | disconnected =>
    refine ⟨fun _ => .inl rfl, rfl, rfl, ?_⟩
    intro active
    cases active
  case handlePuback id =>
    rcases s.handlePuback_cases id with ⟨flow, -, -, result⟩ | result | result <;>
      simp only [Session.perform, result] <;> exact fewerIncoming_of_same rfl rfl rfl rfl
  case handlePubcomp id =>
    rcases s.handlePubcomp_cases id with ⟨flow, -, -, result⟩ | result | result <;>
      simp only [Session.perform, result] <;> exact fewerIncoming_of_same rfl rfl rfl rfl
  case handlePubrec id reasonCode =>
    rcases s.handlePubrec_cases id reasonCode with
      ⟨flow, -, -, -, result⟩ | ⟨flow, -, -, -, result⟩ | result | result | result <;>
      simp only [Session.perform, result] <;> exact fewerIncoming_of_same rfl rfl rfl rfl
  case publishSent qos id =>
    rcases s.publishSent_cases qos id with ⟨-, -, -, sent⟩ | ⟨reason, refused⟩
    · simp only [Session.perform, sent]
      refine fewerIncoming_of_same ?_ rfl rfl rfl
      unfold QosFlowManager.publishSent
      split <;> rfl
    · simp only [Session.perform, refused]
      exact fewerIncoming_of_same rfl rfl rfl rfl
  case resendPublish id =>
    rcases s.resendPublish_cases id with ⟨flow, -, -, -, sent⟩ | same
    · simp only [Session.perform, sent]
      exact fewerIncoming_of_same rfl rfl rfl rfl
    · simp only [Session.perform, same]
      exact fewerIncoming_of_same rfl rfl rfl rfl
  case handleSuback id reasonCodes =>
    simp only [Session.perform, Session.handleSuback]
    split <;> exact fewerIncoming_of_same rfl rfl rfl rfl
  case handleUnsuback id reasonCodes =>
    simp only [Session.perform, Session.handleUnsuback]
    split <;> exact fewerIncoming_of_same rfl rfl rfl rfl
  case handlePublishQos1 | handlePublishQos2 | handlePubrel | pubackSent | pubrecSent | pubcompSent | connectSent |
    connectSentWithAuth | connected | configureForConnect | reset => cases keeps
  all_goals exact fewerIncoming_of_same rfl rfl rfl rfl

end Frame

section Steps

variable {r : ResumingSubscriber} {op : SessionOp} {id : UInt16} {t : Session}

theorem isOpen_false_iff : r.isOpen id = false ↔ r.session.qosFlow.incoming.get? id = none :=
  OrderedMap.contains_false_iff

theorem mem_unacknowledged {other : UInt16} :
    other ∈ r.unacknowledged ↔ other ∈ r.received ∧ (r.isOpen other = true ∨ r.finishing = some other) :=
  Finset.mem_filter

theorem covered_of_sound (sound : r.Sound) : r.Covered := by
  refine ⟨sound.counted, fun active => sound.counted.trans (sound.within active), fun id closed full => ?_⟩
  have limit : r.session.flowControl.ownReceiveMaximum ≤ r.session.flowControl.incomingCount :=
    UInt16.le_iff_toNat_le.mpr (full.trans sound.counted)
  rcases r.session.countIncoming_cases id with ⟨known, -⟩ | ⟨-, room, -⟩ | ⟨-, -, refused⟩
  · exact absurd (known.symm.trans closed) (by decide)
  · exact absurd room (not_lt.mpr limit)
  · have handled := Subscriber.handlePublish_refused refused
    exact ⟨congrArg Prod.fst handled.1, congrArg Prod.fst handled.2⟩

theorem fewer_sound (sound : r.Sound) (fewer : FewerIncoming r.session t) : Sound { r with session := t } := by
  have stays {other : UInt16} {state : Option FlowState} (before : r.session.qosFlow.incoming.get? other = state) :
      t.qosFlow.incoming.get? other = state ∨ t.qosFlow.incoming.get? other = none :=
    (fewer.flows other).imp_left fun same => same.trans before
  have gone {other : UInt16} (absent : r.session.qosFlow.incoming.get? other = none) :
      t.qosFlow.incoming.get? other = none := or_self_iff.mp (stays absent)
  have subset : unacknowledged { r with session := t } ⊆ r.unacknowledged := by
    intro other member
    obtain ⟨arrived, waits⟩ := mem_unacknowledged.mp member
    refine mem_unacknowledged.mpr ⟨arrived, waits.imp_left fun opened => ?_⟩
    by_contra closed
    have absent := gone (isOpen_false_iff.mp (Bool.not_eq_true _ ▸ closed))
    have opened : t.qosFlow.incoming.contains other = true := opened
    simp [OrderedMap.contains, absent] at opened
  refine ⟨?_, fun active => ?_, fun id pending => ?_, fun id pending => ?_⟩
  · simp only [incomingCount, fewer.incomingCount]
    exact (Finset.card_le_card subset).trans sound.counted
  · simp only [incomingCount, ownReceiveMaximum, fewer.incomingCount, fewer.ownReceiveMaximum]
    exact sound.within (fewer.active active)
  · rcases sound.puback id pending with waiting | absent
    · exact stays waiting
    · exact .inr (gone absent)
  · exact gone (sound.pubcomp id pending)

theorem restarted_sound (sound : r.Sound) (count : t.flowControl.incomingCount = 0)
    (flows : t.qosFlow.incoming = r.session.qosFlow.incoming ∨ t.qosFlow.incoming = .empty) :
    Sound { r with session := t, received := ∅ } := by
  have zero : incomingCount { r with session := t, received := ∅ } = 0 := by
    simp only [incomingCount, count]
    rfl
  refine ⟨?_, fun _ => ?_, fun id pending => ?_, fun id pending => ?_⟩
  · simp [unacknowledged]
  · rw [zero]
    exact Nat.zero_le _
  · rcases flows with same | none
    · simp only [same]
      exact sound.puback id pending
    · exact .inr (by simp [none])
  · rcases flows with same | none
    · simp only [same]
      exact sound.pubcomp id pending
    · simp [none]

/-- The action that a PUBLISH asks for and the state that it puts its flow in. -/
inductive Asks (id : UInt16) : Action → FlowState → Prop
  | puback : Asks id (.sendPuback id) .incomingAwaitingPuback
  | pubrec (isDuplicate : Bool) : Asks id (.sendPubrec id isDuplicate) .awaitingPubrel

theorem publish_cases (r : ResumingSubscriber) {id : UInt16}
    (publish : op = .handlePublishQos1 id ∨ op = .handlePublishQos2 id) :
    (∃ t action state, r.session.countIncoming id = (.ok (), t) ∧ Asks id action state ∧
      r.performed op =
        { session := Subscriber.opened t id state, received := insert id r.received, pending := some action }) ∨
    (r.isOpen id = false ∧ r.performed op = r) := by
  have taken (t : Session) (counted : r.session.countIncoming id = (.ok (), t)) :
      ∃ action state, Asks id action state ∧ r.performed op =
        { session := Subscriber.opened t id state, received := insert id r.received, pending := some action } := by
    rcases publish with rfl | rfl
    · refine ⟨_, _, .puback, ?_⟩
      simp only [performed, publishHandled, Subscriber.handlePublishQos1_counted counted]
    · refine ⟨_, _, .pubrec (t.qosFlow.incoming.contains id), ?_⟩
      simp only [performed, publishHandled, Subscriber.handlePublishQos2_counted counted]
  rcases r.session.countIncoming_cases id with ⟨-, counted⟩ | ⟨-, -, counted⟩ | ⟨closed, -, refused⟩
  · exact .inl ⟨_, (taken _ counted).imp fun action => Exists.imp fun state => And.intro counted⟩
  · exact .inl ⟨_, (taken _ counted).imp fun action => Exists.imp fun state => And.intro counted⟩
  · obtain ⟨qos1, qos2⟩ := Subscriber.handlePublish_refused refused
    rcases publish with rfl | rfl
    · exact .inr ⟨closed, by simp only [performed, publishHandled, qos1]⟩
    · exact .inr ⟨closed, by simp only [performed, publishHandled, qos2]⟩

theorem countIncoming_flows (counted : r.session.countIncoming id = (.ok (), t)) :
    t.qosFlow.incoming = r.session.qosFlow.incoming := by
  rcases r.session.countIncoming_cases id with ⟨-, result⟩ | ⟨-, -, result⟩ | ⟨-, -, result⟩ <;>
    rw [result] at counted <;> cases counted <;> rfl

theorem opened_unacknowledged (idle : r.pending = none) {state : FlowState} {action : Action}
    (flows : t.qosFlow.incoming = r.session.qosFlow.incoming) (asks : Asks id action state) :
    unacknowledged
        { session := Subscriber.opened t id state, received := insert id r.received, pending := some action } =
      insert id r.unacknowledged := by
  have none : r.finishing = none := by simp [finishing, idle]
  ext other
  rw [mem_unacknowledged, Finset.mem_insert, Finset.mem_insert, mem_unacknowledged, none]
  by_cases same : other = id
  · subst same
    simp [isOpen, QosFlowManager.hasIncomingFlow, Subscriber.opened]
  · cases asks <;>
      simp [isOpen, QosFlowManager.hasIncomingFlow, Subscriber.opened, same, flows, finishing, Ne.symm same]

theorem opened_sound (sound : r.Sound) (idle : r.pending = none) {state : FlowState} {action : Action}
    (asks : Asks id action state) (fresh : (r.isOpen id && decide (id ∈ r.received)) = false)
    (counted : r.session.countIncoming id = (.ok (), t)) :
    let r' : ResumingSubscriber :=
      { session := Subscriber.opened t id state, received := insert id r.received, pending := some action }
    (r'.unacknowledged.card ≤ r'.incomingCount ↔ (r.isOpen id = true → r.unacknowledged.card < r.incomingCount)) ∧
      (r'.unacknowledged.card ≤ r'.incomingCount → r'.Sound) := by
  intro r'
  have absent : id ∉ r.unacknowledged := by
    intro member
    obtain ⟨arrived, opened | ends⟩ := mem_unacknowledged.mp member
    · simp [opened, arrived] at fresh
    · simp [finishing, idle] at ends
  have card : r'.unacknowledged.card = r.unacknowledged.card + 1 := by
    rw [opened_unacknowledged idle (countIncoming_flows counted) asks, Finset.card_insert_of_notMem absent]
  have within := sound.within
  have waits (other : UInt16) : r'.pending = some (.sendPuback other) →
      r'.session.qosFlow.incoming.get? other = some .incomingAwaitingPuback ∨
        r'.session.qosFlow.incoming.get? other = none := by
    intro pending
    cases asks with
    | puback =>
      obtain rfl : id = other := by simpa [r'] using pending
      simp [r', Subscriber.opened]
    | pubrec => simp [r'] at pending
  have ends (other : UInt16) : r'.pending ≠ some (.sendPubcomp other) := by
    cases asks <;> simp [r']
  rcases r.session.countIncoming_cases id with ⟨known, result⟩ | ⟨new, room, result⟩ | ⟨-, -, result⟩
  · cases result.symm.trans counted
    have opened : r.isOpen id = true := known
    refine ⟨?_, fun above => ⟨above, within, waits, fun other pending => absurd pending (ends other)⟩⟩
    rw [card]
    simp only [opened, forall_const]
    exact Nat.succ_le_iff
  · cases result.symm.trans counted
    have raised := UInt16.saturatingAdd_one_of_lt room
    have below := UInt16.lt_iff_toNat_lt.mp room
    have before := sound.counted
    have closed : r.isOpen id = false := new
    refine ⟨?_, fun above => ⟨above, fun active => ?_, waits, fun other pending => absurd pending (ends other)⟩⟩
    · rw [card]
      simp only [closed, Bool.false_eq_true, false_implies, iff_true]
      simp only [r', incomingCount, Subscriber.opened] at before ⊢
      omega
    · simp only [r', incomingCount, ownReceiveMaximum, Subscriber.opened]
      omega
  · rw [result] at counted
    cases counted

theorem answered_unacknowledged (ends : r.finishing = some id)
    (flows : t.qosFlow.incoming = r.session.qosFlow.incoming.erase id) :
    unacknowledged { session := t, received := r.received, pending := none } = r.unacknowledged.erase id := by
  ext other
  rw [mem_unacknowledged, Finset.mem_erase, mem_unacknowledged, ends]
  simp only [isOpen, QosFlowManager.hasIncomingFlow, flows, OrderedMap.contains_erase, finishing]
  by_cases same : other = id
  · simp [same]
  · simp [same, Ne.symm same]

theorem answered_sound (sound : r.Sound) (ends : r.finishing = some id)
    (flows : t.qosFlow.incoming = r.session.qosFlow.incoming.erase id)
    (lowered : t.flowControl = r.session.flowControl.publishAckSent)
    (connectionState : t.connectionState = r.session.connectionState) :
    let r' : ResumingSubscriber := { session := t, received := r.received, pending := none }
    (r'.unacknowledged.card ≤ r'.incomingCount ↔
        (id ∉ r.received → r.unacknowledged.card < r.incomingCount ∨ r.incomingCount = 0)) ∧
      (r'.unacknowledged.card ≤ r'.incomingCount → r'.Sound) := by
  intro r'
  have before := sound.counted
  have count : r'.incomingCount = r.incomingCount - 1 := by
    simp [r', incomingCount, lowered, FlowControl.publishAckSent]
  have card : r'.unacknowledged.card = (r.unacknowledged.erase id).card :=
    congrArg Finset.card (answered_unacknowledged ends flows)
  constructor
  · rw [card, count]
    by_cases arrived : id ∈ r.received
    · have member : id ∈ r.unacknowledged := mem_unacknowledged.mpr ⟨arrived, .inr ends⟩
      have erased := Finset.card_erase_add_one member
      simp only [arrived, not_true_eq_false, false_implies, iff_true]
      omega
    · have absent : id ∉ r.unacknowledged := fun member => arrived (mem_unacknowledged.mp member).1
      rw [Finset.erase_eq_of_notMem absent]
      simp only [arrived, not_false_eq_true, forall_const]
      omega
  · intro counted
    refine ⟨counted, fun active => ?_, ?_, ?_⟩
    rotate_left
    · intro other pending
      cases pending
    · intro other pending
      cases pending
    have still : r.session.isActive = true := by
      simp only [r', Session.isActive, connectionState] at active
      exact active
    have within := sound.within still
    have limit : r'.ownReceiveMaximum = r.ownReceiveMaximum := by
      simp [r', ownReceiveMaximum, lowered, FlowControl.publishAckSent]
    omega

theorem handlePubrel_sound (sound : r.Sound) (idle : r.pending = none) (id : UInt16) :
    Sound (r.performed (.handlePubrel id)) := by
  by_cases present : r.session.qosFlow.incoming.get? id = some .awaitingPubrel
  · have result := QosFlowManager.pubrelReceived_finished present
    have after : r.performed (.handlePubrel id) =
        { r with
          session := { r.session with qosFlow := { r.session.qosFlow with
            incoming := r.session.qosFlow.incoming.erase id } }
          pending := some (.sendPubcomp id) } := by
      simp only [performed, Session.perform, Session.handlePubrel, result]
    have unacknowledged : (r.performed (.handlePubrel id)).unacknowledged = r.unacknowledged := by
      rw [after]
      ext other
      rw [mem_unacknowledged, mem_unacknowledged]
      simp only [isOpen, QosFlowManager.hasIncomingFlow, OrderedMap.contains_erase, finishing, idle]
      by_cases same : other = id
      · subst same
        simp [OrderedMap.contains, present]
      · simp [same, Ne.symm same]
    refine ⟨?_, ?_, ?_, ?_⟩
    · rw [unacknowledged, after]
      exact sound.counted
    · rw [after]
      exact sound.within
    · rw [after]
      intro other pending
      cases pending
    · rw [after]
      intro other pending
      obtain rfl : id = other := by simpa using pending
      simp
  · have same : (r.session.qosFlow.pubrelReceived id).2 = r.session.qosFlow ∧
        ∀ other, (r.session.qosFlow.pubrelReceived id).1 ≠ .ok (some (.sendPubcomp other)) := by
      cases known : r.session.qosFlow.incoming.get? id with
      | none =>
        rw [QosFlowManager.pubrelReceived_absent known]
        refine ⟨rfl, fun other => ?_⟩
        dsimp only
        split <;> simp
      | some state =>
        rw [QosFlowManager.pubrelReceived_mismatch known fun waiting => present (waiting ▸ known)]
        exact ⟨rfl, fun other => by simp⟩
    have after : r.performed (.handlePubrel id) = r := by
      simp only [performed, Session.perform, Session.handlePubrel, same.1]
      split
      · rename_i other asked
        exact absurd asked (same.2 other)
      · rfl
    rw [after]
    exact sound

theorem configureForConnect_sound (sound : r.Sound) (inactive : r.session.isActive = false) (keepAlive : UInt16)
    (expiry : UInt32) (aliases receive : UInt16) (size : UInt32) :
    Sound (r.performed (.configureForConnect keepAlive expiry aliases receive size)) := by
  have control : (r.session.flowControl.setOwnReceiveMaximum receive).2.incomingCount =
      r.session.flowControl.incomingCount := by
    unfold FlowControl.setOwnReceiveMaximum
    split <;> rfl
  have kept : (r.session.configureForConnect keepAlive expiry aliases receive size).2.qosFlow = r.session.qosFlow ∧
      (r.session.configureForConnect keepAlive expiry aliases receive size).2.flowControl.incomingCount =
        r.session.flowControl.incomingCount ∧
      (r.session.configureForConnect keepAlive expiry aliases receive size).2.connectionState =
        r.session.connectionState := by
    unfold Session.configureForConnect
    dsimp only
    split <;> rename_i result <;> rw [result] at control
    · exact ⟨rfl, control, rfl⟩
    · split <;> exact ⟨rfl, control, rfl⟩
  obtain ⟨flows, count, connectionState⟩ := kept
  refine ⟨?_, fun active => ?_, ?_, ?_⟩
  · simp only [performed, Session.perform, unacknowledged, isOpen, incomingCount, flows, count]
    exact sound.counted
  · simp only [performed, Session.perform, Session.isActive, connectionState] at active inactive
    rw [inactive] at active
    cases active
  · simp only [performed, Session.perform, flows]
    exact sound.puback
  · simp only [performed, Session.perform, flows]
    exact sound.pubcomp

theorem publish_sound (sound : r.Sound) (publish : op = .handlePublishQos1 id ∨ op = .handlePublishQos2 id)
    (permitted : r.allowed op = true) :
    ((r.performed op).unacknowledged.card ≤ (r.performed op).incomingCount ↔ r.SparesSlot op) ∧
      ((r.performed op).unacknowledged.card ≤ (r.performed op).incomingCount → (r.performed op).Sound) := by
  have asks : r.pending.isNone = true ∧ (r.isOpen id && decide (id ∈ r.received)) = false := by
    rcases publish with rfl | rfl <;> simpa only [allowed, Bool.and_eq_true, Bool.not_eq_true'] using permitted
  have idle : r.pending = none := Option.isNone_iff_eq_none.mp asks.1
  have spares : r.SparesSlot op ↔ (r.isOpen id = true → r.unacknowledged.card < r.incomingCount) := by
    have none : r.finishing = none := by simp [finishing, idle]
    rcases publish with rfl | rfl <;> simp [SparesSlot, usesEarlierFlow, none]
  rw [spares]
  rcases r.publish_cases publish with ⟨t, action, state, counted, answer, after⟩ | ⟨closed, after⟩
  · rw [after]
    exact opened_sound sound idle answer asks.2 counted
  · rw [after]
    refine ⟨iff_of_true sound.counted fun opened => ?_, fun _ => sound⟩
    rw [closed] at opened
    cases opened

theorem sparesSlot_iff (ends : r.finishing = some id) (answers : (∃ other, op = .pubackSent other) ∨ op = .pubcompSent) :
    r.SparesSlot op ↔ (id ∉ r.received → r.unacknowledged.card < r.incomingCount ∨ r.incomingCount = 0) := by
  have uses : r.usesEarlierFlow op = decide (id ∉ r.received) := by
    rcases answers with ⟨other, rfl⟩ | rfl <;> simp [usesEarlierFlow, ends]
  rw [SparesSlot, uses, ends]
  simp

theorem pubackSent_sound (sound : r.Sound) (asked : r.pending = some (.sendPuback id)) :
    ((r.performed (.pubackSent id)).unacknowledged.card ≤ (r.performed (.pubackSent id)).incomingCount ↔
        r.SparesSlot (.pubackSent id)) ∧
      ((r.performed (.pubackSent id)).unacknowledged.card ≤ (r.performed (.pubackSent id)).incomingCount →
        (r.performed (.pubackSent id)).Sound) := by
  have ends : r.finishing = some id := by simp [finishing, asked]
  have flows : (r.session.pubackSent id).qosFlow.incoming = r.session.qosFlow.incoming.erase id := by
    rcases sound.puback id asked with waiting | absent
    · simp only [Session.pubackSent, QosFlowManager.pubackSent_finished waiting]
    · have other : r.session.qosFlow.incoming.get? id ≠ some .incomingAwaitingPuback := by
        rw [absent]
        intro same
        cases same
      simp only [Session.pubackSent, QosFlowManager.pubackSent_other other]
      exact (OrderedMap.erase_of_absent absent).symm
  rw [sparesSlot_iff ends (.inl ⟨id, rfl⟩)]
  exact answered_sound sound ends flows rfl rfl

theorem pubcompSent_sound (sound : r.Sound) (asked : r.pending = some (.sendPubcomp id)) :
    ((r.performed .pubcompSent).unacknowledged.card ≤ (r.performed .pubcompSent).incomingCount ↔
        r.SparesSlot .pubcompSent) ∧
      ((r.performed .pubcompSent).unacknowledged.card ≤ (r.performed .pubcompSent).incomingCount →
        (r.performed .pubcompSent).Sound) := by
  have ends : r.finishing = some id := by simp [finishing, asked]
  have flows : r.session.pubcompSent.qosFlow.incoming = r.session.qosFlow.incoming.erase id :=
    (OrderedMap.erase_of_absent (sound.pubcomp id asked)).symm
  rw [sparesSlot_iff ends (.inr rfl)]
  exact answered_sound sound ends flows rfl rfl

theorem pubrecSent_sound (sound : r.Sound) {reasonCode : UInt8} (permitted : r.allowed (.pubrecSent reasonCode) = true) :
    (r.performed (.pubrecSent reasonCode)).Sound := by
  cases asked : r.pending with
  | none => simp [allowed, asked] at permitted
  | some action =>
    cases action with
    | sendPubrec id isDuplicate =>
      have success : ¬0x80 ≤ reasonCode := by
        simp only [allowed, asked, decide_eq_true_eq] at permitted
        exact UInt8.not_le.mpr permitted
      have unfinished : r.finishing = none := by simp [finishing, asked]
      refine ⟨?_, ?_, nofun, nofun⟩
      · simp only [performed, Session.perform, Session.pubrecSent, success, ↓reduceIte]
        have counted := sound.counted
        simp only [unacknowledged, unfinished] at counted
        exact counted
      · simp only [performed, Session.perform, Session.pubrecSent, success, ↓reduceIte]
        exact sound.within
    | _ => simp [allowed, asked] at permitted

theorem performed_sound (sound : r.Sound) (permitted : r.allowed op = true) :
    ((r.performed op).unacknowledged.card ≤ (r.performed op).incomingCount ↔ r.SparesSlot op) ∧
      ((r.performed op).unacknowledged.card ≤ (r.performed op).incomingCount → (r.performed op).Sound) := by
  have steady {op : SessionOp} (after : (r.performed op).Sound) (current : r.usesEarlierFlow op = false) :
      ((r.performed op).unacknowledged.card ≤ (r.performed op).incomingCount ↔ r.SparesSlot op) ∧
        ((r.performed op).unacknowledged.card ≤ (r.performed op).incomingCount → (r.performed op).Sound) :=
    ⟨iff_of_true after.counted fun earlier => absurd (earlier.symm.trans current) (by decide), fun _ => after⟩
  have fewer {op : SessionOp} (keeps : keepsIncoming op = true) :=
    fewer_sound sound (perform_fewerIncoming (s := r.session) keeps)
  cases op
  case handlePublishQos1 id => exact publish_sound sound (.inl rfl) permitted
  case handlePublishQos2 id => exact publish_sound sound (.inr rfl) permitted
  case handlePubrel id =>
    exact steady (handlePubrel_sound sound (Option.isNone_iff_eq_none.mp permitted) id) rfl
  case pubackSent id => exact pubackSent_sound sound (of_decide_eq_true permitted)
  case pubrecSent reasonCode => exact steady (pubrecSent_sound sound permitted) rfl
  case pubcompSent =>
    cases asked : r.pending with
    | none => simp [allowed, asked] at permitted
    | some action =>
      cases action with
      | sendPubcomp id => exact pubcompSent_sound sound asked
      | _ => simp [allowed, asked] at permitted
  case configureForConnect =>
    exact steady (configureForConnect_sound sound (by simpa [allowed] using permitted) ..) rfl
  case connectSent => exact steady (restarted_sound sound rfl (.inl rfl)) rfl
  case reset => exact steady (restarted_sound sound rfl (.inr rfl)) rfl
  case connectSentWithAuth method =>
    refine steady ?_ rfl
    simp only [performed, Session.perform, Session.connectSentWithAuth]
    cases r.session.isV5
    · exact sound
    · exact restarted_sound sound rfl (.inl rfl)
  case connected => cases permitted
  all_goals exact steady (fewer rfl) rfl

theorem covered_iff (sound : r.Sound) (permitted : r.allowed op = true) :
    (r.performed op).Covered ↔ r.SparesSlot op := by
  obtain ⟨counted, after⟩ := performed_sound sound permitted
  exact ⟨fun covers => counted.mp covers.counted, fun spares => covered_of_sound (after (counted.mpr spares))⟩

theorem next_sound {r r' : ResumingSubscriber} {op : SessionOp} (sound : r.Sound)
    (step : Guarded SparesSlot (Steps next) r op r') : r'.Sound := by
  obtain ⟨spares, moved⟩ := step
  simp only [Steps, next] at moved
  split at moved
  · rename_i permitted
    cases moved
    obtain ⟨counted, after⟩ := performed_sound sound permitted
    exact after (counted.mpr spares)
  · cases moved

end Steps

def start (fresh : Session) : ResumingSubscriber := { session := fresh, received := ∅, pending := none }

theorem start_sound {version : MqttVersion} {clientId : String} {cleanStart : Bool} {fresh : Session}
    (created : Session.new version clientId cleanStart = .ok fresh) : (start fresh).Sound := by
  rw [Session.new_eq_ok created]
  exact ⟨Nat.zero_le _, fun _ => Nat.zero_le _, nofun, nofun⟩

/-- Along every run in which flows of earlier connections only use spare slots, the receive quota covers the
    PUBLISH packets of the current connection, and the next call breaks this exactly when it uses one it lacks. -/
theorem receive_quota_covered {version : MqttVersion} {clientId : String} {cleanStart : Bool} {fresh : Session}
    {ops : List SessionOp} {r : ResumingSubscriber} (created : Session.new version clientId cleanStart = .ok fresh)
    (run : Run (Guarded SparesSlot (Steps next)) (start fresh) ops r) :
    r.Covered ∧ ∀ op, r.allowed op = true → ((r.performed op).Covered ↔ r.SparesSlot op) := by
  have sound : r.Sound := run.invariant next_sound (start_sound created)
  exact ⟨covered_of_sound sound, fun op permitted => covered_iff sound permitted⟩

def finishedFirstRun : List SessionOp :=
  [.connectSent, .applyConnack (.successV5 false none), .handlePublishQos2 1, .pubrecSent 0, .disconnected,
    .connectSent, .applyConnack (.successV5 true none), .handlePubrel 1, .pubcompSent,
    .handlePublishQos2 2, .pubrecSent 0, .handlePubrel 2, .pubcompSent]

theorem finishedFirstRun_covered :
    ∃ r, Run (Guarded SparesSlot (Steps next)) (start (.initial .v5 "client" false)) finishedFirstRun r ∧
      r.Covered ∧ ∀ op, r.allowed op = true → ((r.performed op).Covered ↔ r.SparesSlot op) := by
  have created : Session.new .v5 "client" false = .ok (.initial .v5 "client" false) := rfl
  have completes : (runFrom (fun r op => if SparesSlot r op then next r op else none)
      (start (.initial .v5 "client" false)) finishedFirstRun).isSome = true := by decide
  obtain ⟨r, ends⟩ := Option.isSome_iff_exists.mp completes
  have run := run_guarded_of_runFrom ends
  exact ⟨r, run, receive_quota_covered created run⟩

def carriedOverRun : List SessionOp :=
  [.connectSent, .applyConnack (.successV5 false none), .handlePublishQos2 1, .pubrecSent 0, .disconnected,
    .connectSent, .applyConnack (.successV5 true none), .handlePublishQos2 2, .pubrecSent 0,
    .handlePubrel 1, .pubcompSent]

theorem carried_over_flow_frees_slot :
    ¬∀ version clientId cleanStart fresh ops r, Session.new version clientId cleanStart = .ok fresh →
      Run (Steps next) (start fresh) ops r → r.Covered := by
  intro claim
  have completes : (runFrom next (start (.initial .v5 "client" false)) carriedOverRun).any (fun r =>
      decide (r.incomingCount = 0 ∧ r.unacknowledged.card = 1)) = true := by decide
  obtain ⟨r, ends, freed⟩ := (Option.any_eq_true _ _).mp completes
  obtain ⟨count, waiting⟩ := of_decide_eq_true freed
  have covered := claim .v5 "client" false _ carriedOverRun r rfl (run_of_runFrom ends)
  have counted := covered.counted
  omega

end ResumingSubscriber

end MqttRs
