import MqttRs.State.Conversation

namespace MqttRs

namespace Conversation

variable {c d : Conversation} {id : UInt16} {publisher : PacketIdUser} {subscriber : Session}

section Stages

/-- The exchanges under the other identifiers stay as they are. -/
def Elsewhere (c d : Conversation) (id : UInt16) : Prop := ∀ other, other ≠ id → d.view other = c.view other

theorem stages_of_one (id : UInt16) (steady : c.Steady) (elsewhere : Elsewhere c d id) (here : Stage id (d.view id))
    (other : UInt16) : Stage other (d.view other) := by
  by_cases same : other = id
  · rw [same]
    exact here
  · rw [elsewhere other same]
    exact steady.stages other

/-- Accepting the message of one exchange says nothing about the message of another. -/
theorem accepted_elsewhere (distinct : ∀ key other message, c.delivery.inProgress key = some message →
      c.delivery.inProgress other = some message → key = other)
    {state : FlowState} (open' : c.sending id = some state) {other : UInt16} (different : other ≠ id) :
    ((c.sending other).isSome && decide (c.messages other ∈ c.accepted ++ [c.messages id])) =
      ((c.sending other).isSome && decide (c.messages other ∈ c.accepted)) := by
  cases flow : c.sending other with
  | none => rfl
  | some state =>
    have another : c.messages other ≠ c.messages id := by
      intro same
      have carried : c.delivery.inProgress other = some (c.messages other) := by simp [delivery, flow]
      have carrier : c.delivery.inProgress id = some (c.messages other) := by simp [delivery, open', same]
      exact different (distinct _ _ _ carried carrier)
    simp [another]

section Heads

variable {qos : QoS} {message : Nat} {reasonCode : UInt8} {sent : List PublisherPacket}
  {replied : List SubscriberPacket}

theorem forward_head (packet : PublisherPacket) (queued : c.forward = packet :: sent) :
    (c.view packet.packetId).forward = packet :: sent.filter fun p => p.packetId = packet.packetId := by
  simp [view, queued]

theorem backward_head (packet : SubscriberPacket) (queued : c.backward = packet :: replied) :
    (c.view packet.packetId).backward = packet :: replied.filter fun p => p.packetId = packet.packetId := by
  simp [view, queued]

/-- The first packet of a queue tells the stage of its exchange. -/
theorem view_of_publish (steady : c.Steady) (queued : c.forward = .publish qos id message :: sent) :
    qos ≠ .atMostOnce ∧
      c.view id = ⟨message, false, some (Session.openingState qos), none, [.publish qos id message], []⟩ := by
  have stage := steady.stages id
  have head := forward_head _ queued
  simp only [PublisherPacket.packetId_publish] at head
  generalize c.view id = v at stage head ⊢
  cases stage with
  | published message qos real =>
    cases (List.cons.inj head).1
    exact ⟨real, rfl⟩
  | idle | received | acknowledged | stored | releasing | released => cases head

theorem view_of_pubrel (steady : c.Steady) (queued : c.forward = .pubrel id :: sent) :
    ∃ message, c.view id = ⟨message, true, some .awaitingPubcomp, some .awaitingPubrel, [.pubrel id], []⟩ := by
  have stage := steady.stages id
  have head := forward_head _ queued
  simp only [PublisherPacket.packetId_pubrel] at head
  generalize c.view id = v at stage head ⊢
  cases stage with
  | releasing message => exact ⟨message, rfl⟩
  | published => cases (List.cons.inj head).1
  | idle | received | acknowledged | stored | released => cases head

theorem view_of_puback (steady : c.Steady) (queued : c.backward = .puback id :: replied) :
    ∃ message, c.view id = ⟨message, true, some .awaitingPuback, none, [], [.puback id]⟩ := by
  have stage := steady.stages id
  have head := backward_head _ queued
  simp only [SubscriberPacket.packetId_puback] at head
  generalize c.view id = v at stage head ⊢
  cases stage with
  | acknowledged message => exact ⟨message, rfl⟩
  | stored | released => cases (List.cons.inj head).1
  | idle | published | received | releasing => cases head

theorem view_of_pubrec (steady : c.Steady) (queued : c.backward = .pubrec id reasonCode :: replied) :
    ¬0x80 ≤ reasonCode ∧
      ∃ message, c.view id =
        ⟨message, true, some .awaitingPubrec, some .awaitingPubrel, [], [.pubrec id reasonCode]⟩ := by
  have stage := steady.stages id
  have head := backward_head _ queued
  simp only [SubscriberPacket.packetId_pubrec] at head
  generalize c.view id = v at stage head ⊢
  cases stage with
  | stored message reasonCode success =>
    cases (List.cons.inj head).1
    exact ⟨success, message, rfl⟩
  | acknowledged | released => cases (List.cons.inj head).1
  | idle | published | received | releasing => cases head

theorem view_of_pubcomp (steady : c.Steady) (queued : c.backward = .pubcomp id :: replied) :
    ∃ message, c.view id = ⟨message, true, some .awaitingPubcomp, none, [], [.pubcomp id]⟩ := by
  have stage := steady.stages id
  have head := backward_head _ queued
  simp only [SubscriberPacket.packetId_pubcomp] at head
  generalize c.view id = v at stage head ⊢
  cases stage with
  | released message => exact ⟨message, rfl⟩
  | acknowledged | stored => cases (List.cons.inj head).1
  | idle | published | received | releasing => cases head

theorem view_of_unacknowledged (steady : c.Steady)
    (waiting : c.subscriber.qosFlow.incoming.get? id = some .incomingAwaitingPuback) :
    ∃ message, c.view id = ⟨message, true, some .awaitingPuback, some .incomingAwaitingPuback, [], []⟩ := by
  have stage := steady.stages id
  have receiving : (c.view id).receiving = some .incomingAwaitingPuback := waiting
  generalize c.view id = v at stage receiving ⊢
  cases stage with
  | received message => exact ⟨message, rfl⟩
  | idle | published | acknowledged | stored | releasing | released => cases receiving

theorem view_of_free (steady : c.Steady) (free : c.sending id = none) :
    ∃ message, c.view id = ⟨message, false, none, none, [], []⟩ := by
  have stage := steady.stages id
  have flow : (c.view id).sending = none := free
  generalize c.view id = v at stage flow ⊢
  cases stage with
  | idle message => exact ⟨message, rfl⟩
  | published | received | acknowledged | stored | releasing | released => cases flow

end Heads

end Stages

section Counting

theorem incoming_subset (steady : c.Steady) (key : UInt16)
    (receives : c.subscriber.qosFlow.incoming.contains key = true) :
    c.publisher.session.qosFlow.outgoing.contains key = true := by
  have stage := steady.stages key
  have receiving : (c.view key).receiving ≠ none := by
    obtain ⟨state, present⟩ := OrderedMap.contains_iff.mp receives
    simp [view, present]
  have flow : (c.view key).sending ≠ none := by
    generalize c.view key = v at stage receiving ⊢
    cases stage with
    | received | stored | releasing => exact Option.some_ne_none _
    | idle | published | acknowledged | released => exact absurd rfl receiving
  cases present : c.publisher.session.qosFlow.outgoing.get? key with
  | none => simp [view, sending, present] at flow
  | some open' => exact OrderedMap.contains_iff.mpr ⟨open', present⟩

theorem incoming_le (steady : c.Steady) : c.incomingCount ≤ c.outgoingCount := by
  rw [steady.received]
  exact OrderedMap.size_le_of_subset (incoming_subset steady)

theorem room_for_publish (steady : c.Steady) {state : FlowState} (flow : c.sending id = some state)
    (closed : c.subscriber.qosFlow.incoming.get? id = none) :
    c.subscriber.flowControl.incomingCount < c.subscriber.flowControl.ownReceiveMaximum := by
  obtain ⟨open', present, -⟩ := Option.map_eq_some_iff.mp flow
  have fewer : c.subscriber.qosFlow.incoming.size < c.outgoingCount :=
    OrderedMap.size_lt_of_subset (incoming_subset steady) (OrderedMap.contains_false_iff.mpr closed)
      (OrderedMap.contains_iff.mpr ⟨open', present⟩)
  apply UInt16.lt_iff_toNat_lt.mpr
  calc c.incomingCount = c.subscriber.qosFlow.incoming.size := steady.received
    _ < c.outgoingCount := fewer
    _ ≤ c.publisher.session.sendLimit := steady.within
    _ ≤ c.ownReceiveMaximum := steady.limit

end Counting

end Conversation

end MqttRs
