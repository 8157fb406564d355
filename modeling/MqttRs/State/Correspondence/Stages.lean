import MqttRs.State.Correspondence

namespace MqttRs

namespace Correspondence

variable {c d : Correspondence} {id other : UInt16} {e : Exchange} {t : Traffic}

theorem Stage.standing (stage : Stage id e t) : Standing e := by
  cases stage with
  | idle message => exact .idle message
  | lost e standing | publishing e standing => exact standing
  | received message => exact .taken message _ fun _ same => (Option.some.inj same).symm
  | acknowledged message => exact .taken message _ nofun
  | stored message => exact .stored message
  | releasing message receiving kept => exact .released message receiving kept
  | released message => exact .released message _ nofun

section Heads

variable {qos : QoS} {message : Nat} {reasonCode : UInt8} {action : Action} {sent : List PublisherPacket}
  {replied : List SubscriberPacket} {rest : List (UInt16 × Action)}

theorem forward_head (packet : PublisherPacket) (queued : c.forward = packet :: sent) :
    (c.traffic packet.packetId).forward = packet :: sent.filter fun p => p.packetId = packet.packetId := by
  simp [traffic, queued]

theorem backward_head (packet : SubscriberPacket) (queued : c.backward = packet :: replied) :
    (c.traffic packet.packetId).backward = packet :: replied.filter fun p => p.packetId = packet.packetId := by
  simp [traffic, queued]

theorem stage_of_publish (steady : c.Steady) (queued : c.forward = .publish qos id message :: sent) :
    message = c.messages id ∧ (c.exchange id).level = some qos ∧ c.sending id = some (Session.openingState qos) ∧
      c.traffic id = ⟨[.publish qos id message], [], [], []⟩ := by
  have stage := steady.stages id
  have head := forward_head _ queued
  have carried : (c.exchange id).message = c.messages id := rfl
  have flow : (c.exchange id).sending = c.sending id := rfl
  simp only [PublisherPacket.packetId_publish] at head
  rw [← carried, ← flow]
  generalize c.exchange id = e, c.traffic id = t at stage head ⊢
  cases stage with
  | publishing e standing qos level waits =>
    cases (List.cons.inj head).1
    exact ⟨rfl, level, waits, rfl⟩
  | releasing => cases (List.cons.inj head).1
  | idle | lost | received | acknowledged | stored | released => cases head

theorem stage_of_pubrel (steady : c.Steady) (queued : c.forward = .pubrel id :: sent) :
    ∃ message receiving, (∀ state ∈ receiving, state = FlowState.awaitingPubrel) ∧
      c.exchange id = ⟨message, some .exactlyOnce, true, some .awaitingPubcomp, receiving⟩ ∧
      c.traffic id = ⟨[.pubrel id], [], [], []⟩ := by
  have stage := steady.stages id
  have head := forward_head _ queued
  simp only [PublisherPacket.packetId_pubrel] at head
  generalize c.exchange id = e, c.traffic id = t at stage head ⊢
  cases stage with
  | releasing message receiving kept => exact ⟨message, receiving, kept, rfl, rfl⟩
  | publishing => cases (List.cons.inj head).1
  | idle | lost | received | acknowledged | stored | released => cases head

theorem stage_of_puback (steady : c.Steady) (queued : c.backward = .puback id :: replied) :
    ∃ message, c.exchange id = ⟨message, some .atLeastOnce, true, some .awaitingPuback, none⟩ ∧
      c.traffic id = ⟨[], [.puback id], [], []⟩ := by
  have stage := steady.stages id
  have head := backward_head _ queued
  simp only [SubscriberPacket.packetId_puback] at head
  generalize c.exchange id = e, c.traffic id = t at stage head ⊢
  cases stage with
  | acknowledged message => exact ⟨message, rfl, rfl⟩
  | stored | released => cases (List.cons.inj head).1
  | idle | lost | publishing | received | releasing => cases head

theorem stage_of_pubrec (steady : c.Steady) (queued : c.backward = .pubrec id reasonCode :: replied) :
    ¬0x80 ≤ reasonCode ∧
      ∃ message, c.exchange id = ⟨message, some .exactlyOnce, true, some .awaitingPubrec, some .awaitingPubrel⟩ ∧
        c.traffic id = ⟨[], [.pubrec id reasonCode], [], []⟩ := by
  have stage := steady.stages id
  have head := backward_head _ queued
  simp only [SubscriberPacket.packetId_pubrec] at head
  generalize c.exchange id = e, c.traffic id = t at stage head ⊢
  cases stage with
  | stored message reasonCode success =>
    cases (List.cons.inj head).1
    exact ⟨success, message, rfl, rfl⟩
  | acknowledged | released => cases (List.cons.inj head).1
  | idle | lost | publishing | received | releasing => cases head

theorem stage_of_pubcomp (steady : c.Steady) (queued : c.backward = .pubcomp id :: replied) :
    ∃ message, c.exchange id = ⟨message, some .exactlyOnce, true, some .awaitingPubcomp, none⟩ ∧
      c.traffic id = ⟨[], [.pubcomp id], [], []⟩ := by
  have stage := steady.stages id
  have head := backward_head _ queued
  simp only [SubscriberPacket.packetId_pubcomp] at head
  generalize c.exchange id = e, c.traffic id = t at stage head ⊢
  cases stage with
  | released message => exact ⟨message, rfl, rfl⟩
  | acknowledged | stored => cases (List.cons.inj head).1
  | idle | lost | publishing | received | releasing => cases head

theorem stage_of_owed (steady : c.Steady) (member : id ∈ c.owed) :
    ∃ message,
      c.exchange id = ⟨message, some .atLeastOnce, true, some .awaitingPuback, some .incomingAwaitingPuback⟩ ∧
      c.traffic id = ⟨[], [], [id], []⟩ := by
  have stage := steady.stages id
  have listed : id ∈ (c.traffic id).owed := by simp [traffic, member]
  generalize c.exchange id = e, c.traffic id = t at stage listed ⊢
  cases stage with
  | received message => exact ⟨message, rfl, rfl⟩
  | idle | lost | publishing | acknowledged | stored | releasing | released => cases listed

theorem stage_of_resend (steady : c.Steady) (listed : c.resends = (id, action) :: rest) :
    Standing (c.exchange id) ∧ (c.exchange id).asks id = some action ∧
      c.traffic id = ⟨[], [], [], [(id, action)]⟩ := by
  have stage := steady.stages id
  have head : (c.traffic id).resends = (id, action) :: rest.filter fun entry => entry.1 = id := by
    simp [traffic, listed]
  generalize c.exchange id = e, c.traffic id = t at stage head ⊢
  cases stage with
  | lost e standing action asks =>
    cases (List.cons.inj head).1
    exact ⟨standing, asks, rfl⟩
  | idle | publishing | received | acknowledged | stored | releasing | released => cases head

theorem stage_of_free (steady : c.Steady) (free : c.sending id = none) :
    ∃ message, c.exchange id = ⟨message, none, false, none, none⟩ ∧ c.traffic id = ⟨[], [], [], []⟩ := by
  have stage := steady.stages id
  have flow : (c.exchange id).sending = none := free
  generalize c.exchange id = e, c.traffic id = t at stage flow ⊢
  cases stage with
  | idle message => exact ⟨message, rfl, rfl⟩
  | lost e standing action asks => simp [Exchange.asks, flow] at asks
  | publishing e standing qos level waits => cases flow.symm.trans waits
  | received | acknowledged | stored | releasing | released => cases flow

end Heads

section Frame

/-- The exchanges under the other identifiers stay as they are. -/
def Elsewhere (c d : Correspondence) (id : UInt16) : Prop :=
  ∀ other, other ≠ id → d.exchange other = c.exchange other ∧ d.traffic other = c.traffic other

theorem stages_of_one (id : UInt16) (steady : c.Steady) (elsewhere : Elsewhere c d id)
    (here : Stage id (d.exchange id) (d.traffic id)) (other : UInt16) :
    Stage other (d.exchange other) (d.traffic other) := by
  by_cases same : other = id
  · rw [same]
    exact here
  · obtain ⟨exchange, traffic⟩ := elsewhere other same
    rw [exchange, traffic]
    exact steady.stages other

theorem exchange_other (messages : d.messages other = c.messages other)
    (levels : c.sending other ≠ none → d.levels (c.messages other) = c.levels (c.messages other))
    (sending : d.sending other = c.sending other)
    (accepted : ((c.sending other).isSome && decide (c.messages other ∈ d.accepted)) =
      ((c.sending other).isSome && decide (c.messages other ∈ c.accepted)))
    (receiving : d.subscriber.qosFlow.incoming.get? other = c.subscriber.qosFlow.incoming.get? other) :
    d.exchange other = c.exchange other := by
  simp only [exchange, Exchange.mk.injEq]
  refine ⟨messages, ?_, ?_, sending, receiving⟩
  · rw [sending, messages]
    cases flow : c.sending other with
    | none => rfl
    | some state => simp [levels (by simp [flow])]
  · rw [sending, messages, accepted]

theorem traffic_other (forward : d.forward.filter (fun packet => decide (packet.packetId = other)) = (c.traffic other).forward)
    (backward : d.backward.filter (fun packet => decide (packet.packetId = other)) = (c.traffic other).backward)
    (owed : d.owed.filter (fun id => decide (id = other)) = (c.traffic other).owed)
    (resends : d.resends.filter (fun entry => decide (entry.1 = other)) = (c.traffic other).resends) :
    d.traffic other = c.traffic other := by
  simp only [traffic, Traffic.mk.injEq]
  exact ⟨forward, backward, owed, resends⟩

/-- What is to be sent again stays uncounted while another flow is counted, moved on or ended. -/
theorem uncharged_other (steady : c.Steady) (notListed : (c.traffic id).resends = []) {publisher : PacketIdUser}
    (others : ∀ other, other ≠ id →
      publisher.session.qosFlow.outgoing.get? other = c.publisher.session.qosFlow.outgoing.get? other) :
    ∀ entry ∈ c.resends, publisher.session.qosFlow.isQuotaCharged entry.1 = false := by
  intro entry listed
  have different : entry.1 ≠ id := by
    intro same
    have member : entry ∈ (c.traffic id).resends := by simp [traffic, same, listed]
    rw [notListed] at member
    cases member
  rw [QosFlowManager.isQuotaCharged, others entry.1 different]
  exact steady.uncharged entry listed

end Frame

section Counting

theorem incoming_subset (lasting : c.Lasting) (key : UInt16)
    (receives : c.subscriber.qosFlow.incoming.contains key = true) :
    c.publisher.session.qosFlow.outgoing.contains key = true := by
  have standing := lasting.standing key
  have receiving : (c.exchange key).receiving ≠ none := by
    obtain ⟨state, present⟩ := OrderedMap.contains_iff.mp receives
    simp [exchange, present]
  have flow : (c.exchange key).sending ≠ none := by
    generalize c.exchange key = e at standing receiving ⊢
    cases standing with
    | idle => exact absurd rfl receiving
    | published | taken | stored | released => exact Option.some_ne_none _
  cases present : c.publisher.session.qosFlow.outgoing.get? key with
  | none => simp [exchange, Conversation.sending, present] at flow
  | some flow => exact OrderedMap.contains_iff.mpr ⟨flow, present⟩

/-- A PUBLISH is refused only when the publisher has more messages unfinished than the subscriber takes at once. -/
theorem beyond_of_refused (steady : c.Steady) {state : FlowState} (flow : c.sending id = some state)
    (closed : c.subscriber.qosFlow.incoming.get? id = none)
    (full : c.subscriber.flowControl.ownReceiveMaximum ≤ c.subscriber.flowControl.incomingCount) :
    c.ownReceiveMaximum < c.outgoingCount := by
  obtain ⟨open', present, -⟩ := Option.map_eq_some_iff.mp flow
  calc c.ownReceiveMaximum ≤ c.incomingCount := UInt16.le_iff_toNat_le.mp full
    _ ≤ c.subscriber.qosFlow.incoming.size := steady.counted
    _ < c.outgoingCount :=
      OrderedMap.size_lt_of_subset (incoming_subset steady.toLasting) (OrderedMap.contains_false_iff.mpr closed)
        (OrderedMap.contains_iff.mpr ⟨open', present⟩)

end Counting

end Correspondence

end MqttRs
