import MqttRs.State.Conversation.Stages
import MqttRs.State.ReceiveQuota

namespace MqttRs

namespace Conversation

variable {c d : Conversation} {id : UInt16} {publisher : PacketIdUser} {subscriber : Session}

section Steps

/-- The view of another exchange, when a step only touches what belongs to one. -/
theorem view_other {other : UInt16} (messages : d.messages other = c.messages other)
    (sending : d.sending other = c.sending other)
    (accepted : ((c.sending other).isSome && decide (c.messages other ∈ d.accepted)) =
      ((c.sending other).isSome && decide (c.messages other ∈ c.accepted)))
    (receiving : d.subscriber.qosFlow.incoming.get? other = c.subscriber.qosFlow.incoming.get? other)
    (forward : d.forward.filter (fun packet => decide (packet.packetId = other)) = (c.view other).forward)
    (backward : d.backward.filter (fun packet => decide (packet.packetId = other)) = (c.view other).backward) :
    d.view other = c.view other := by
  simp only [view, View.mk.injEq]
  exact ⟨messages, by rw [sending, messages, accepted], sending, receiving, forward, backward⟩

theorem publisher_steady (steady : c.Steady) (balanced : publisher.Balanced)
    (same : Session.SameSending c.publisher.session publisher.session) : Steady { c with publisher } := by
  have views : ∀ id, view { c with publisher } id = c.view id := by
    intro id
    simp only [view, sending, same.outgoing]
  have outstanding : publisher.session.outstanding = c.publisher.session.outstanding := by
    rw [Session.outstanding, same.outstandingCount, Session.outstanding]
  have sendLimit : publisher.session.sendLimit = c.publisher.session.sendLimit := by
    rw [Session.sendLimit, same.receiveMaximum, Session.sendLimit]
  have size : outgoingCount { c with publisher } = c.outgoingCount := by
    rw [outgoingCount, outgoingCount, same.outgoing]
  have deliveries : delivery { c with publisher } = c.delivery := by
    simp only [delivery, sending, same.outgoing]
  refine ⟨steady.matched, balanced, ?_, ?_, ?_, ?_, steady.received, ?_⟩
  · intro id
    rw [views id]
    exact steady.stages id
  · rw [size]
    exact outstanding.trans steady.sent
  · rw [size]
    exact sendLimit ▸ steady.within
  · exact sendLimit ▸ steady.limit
  · rw [deliveries]
    exact steady.sound

theorem subscriber_steady (steady : c.Steady) (same : Session.SameReceiving c.subscriber subscriber) :
    Steady { c with subscriber } := by
  have views : ∀ id, view { c with subscriber } id = c.view id := by
    intro id
    simp only [view, sending, same.incoming]
  refine ⟨steady.matched, steady.balanced, ?_, steady.sent, steady.within, ?_, ?_, steady.sound⟩
  · intro id
    rw [views id]
    exact steady.stages id
  · rw [ownReceiveMaximum, same.ownReceiveMaximum]
    exact steady.limit
  · rw [incomingCount, same.incomingCount, same.incoming]
    exact steady.received

theorem publish_steady (steady : c.Steady) {qos : QoS}
    (step : c.publisher.next (.publishSent qos id) = some publisher) : (c.publish qos id publisher).Steady := by
  obtain ⟨permitted, session⟩ := PacketIdUser.next_eq_some step
  have balanced := PacketIdUser.next_balanced steady.balanced step
  have unused := (PacketIdUser.exchanges_of_held steady.balanced (of_decide_eq_true permitted)).1
  rw [Session.perform] at session
  rcases c.publisher.session.publishSent_cases qos id with ⟨real, nonzero, room, sent⟩ | ⟨reason, refused⟩
  · have absent : c.publisher.session.qosFlow.outgoing.get? id = none := by
      apply OrderedMap.contains_false_iff.mp
      cases known : c.publisher.session.qosFlow.outgoing.contains id with
      | false => rfl
      | true => simp [Session.exchanges, known] at unused
    have charged := Publisher.outstanding_charge room
    obtain ⟨flow, state, outgoing⟩ : ∃ flow : OutgoingFlow, flow.state = Session.openingState qos ∧
        publisher.session.qosFlow.outgoing = c.publisher.session.qosFlow.outgoing.insert id flow := by
      rw [session, sent, QosFlowManager.publishSent_new nonzero absent]
      exact ⟨_, rfl, rfl⟩
    have outstanding : publisher.session.outstanding = c.publisher.session.outstanding + 1 := by
      rw [session, sent]
      exact charged.1
    have sendLimit : publisher.session.sendLimit = c.publisher.session.sendLimit := by
      rw [session, sent]
      rfl
    simp only [publish, sent, ↓reduceIte]
    clear session sent
    have free : c.sending id = none := by simp [sending, absent]
    obtain ⟨message, known⟩ := view_of_free steady free
    simp only [view, View.mk.injEq] at known
    obtain ⟨-, -, -, closed, noForward, noBackward⟩ := known
    have size : publisher.session.qosFlow.outgoing.size = c.outgoingCount + 1 := by
      rw [outgoing, OrderedMap.size_insert_new _ _ absent, outgoingCount]
    refine ⟨steady.matched, balanced, ?_, ?_, ?_, ?_, steady.received, ?_⟩
    · apply stages_of_one id steady
      · intro other different
        refine view_other ?_ ?_ rfl rfl ?_ rfl
        · simp [different]
        · simp [sending, outgoing, different]
        · simp [view, Ne.symm different]
      · have fresh : c.published ∉ c.accepted := fun member =>
          Nat.lt_irrefl _ (steady.sound.acceptedPublished _ member)
        convert Stage.published c.published qos real using 1
        simp [view, sending, outgoing, state, fresh, closed, noForward, noBackward]
    · rw [outgoingCount, size, outstanding, steady.sent]
    · rw [outgoingCount, size, sendLimit, ← steady.sent]
      exact charged.2
    · rw [sendLimit]
      exact steady.limit
    · convert (Delivery.Step.publish c.delivery id (by simp [delivery, free])).sound steady.sound using 1
      simp only [delivery, Delivery.mk.injEq, and_true]
      funext other
      by_cases same : other = id
      · subst same
        simp [sending, outgoing]
      · simp [sending, outgoing, same]
  · simp only [publish, refused, reduceCtorEq, ↓reduceIte]
    rw [refused] at session
    exact publisher_steady steady balanced (session ▸ .refl _)

theorem counted_of_publish (steady : c.Steady) {state : FlowState} (flow : c.sending id = some state)
    (closed : c.subscriber.qosFlow.incoming.get? id = none) :
    ∃ t, c.subscriber.countIncoming id = (.ok (), t) ∧ t.qosFlow.incoming = c.subscriber.qosFlow.incoming ∧
      t.flowControl.incomingCount.toNat = c.incomingCount + 1 ∧
      t.flowControl.ownReceiveMaximum = c.subscriber.flowControl.ownReceiveMaximum := by
  have room := room_for_publish steady flow closed
  rcases c.subscriber.countIncoming_cases id with ⟨known, -⟩ | ⟨-, -, counts⟩ | ⟨-, full, -⟩
  · simp [QosFlowManager.hasIncomingFlow, OrderedMap.contains, closed] at known
  · exact ⟨_, counts, rfl, UInt16.saturatingAdd_one_of_lt room, rfl⟩
  · exact absurd room (not_lt.mpr full)

/-- The message of a PUBLISH is accepted and its flow opened, with or without an answer at once. -/
theorem accept_settles (subscriber : Session) (replies : List SubscriberPacket) (steady : c.Steady) {qos : QoS}
    {message : Nat} {sent : List PublisherPacket} (queued : c.forward = .publish qos id message :: sent)
    {state : FlowState}
    (opens : subscriber.qosFlow.incoming = c.subscriber.qosFlow.incoming.insert id state)
    (counts : subscriber.flowControl.incomingCount.toNat = c.incomingCount + 1)
    (limit : subscriber.flowControl.ownReceiveMaximum = c.subscriber.flowControl.ownReceiveMaximum)
    (answers : ∀ reply ∈ replies, reply.packetId = id)
    (stage : Stage id ⟨message, true, some (Session.openingState qos), some state, [], replies⟩)
    (work : (PublisherPacket.publish qos id message).work =
      (replies.map SubscriberPacket.work).sum + 2 * (if unacknowledged state then 1 else 0) + 1) :
    c.Settles { c with
      subscriber
      forward := sent
      backward := c.backward ++ replies
      accepted := c.accepted ++ [message] } := by
  obtain ⟨real, known⟩ := view_of_publish steady queued
  simp only [view, View.mk.injEq] at known
  obtain ⟨carried, fresh, flow, closed, noForward, noBackward⟩ := known
  have noSent : sent.filter (fun packet => decide (packet.packetId = id)) = [] := by
    simpa [queued] using noForward
  have own : replies.filter (fun packet => decide (packet.packetId = id)) = replies :=
    List.filter_eq_self.mpr fun reply member => decide_eq_true (answers reply member)
  subst carried
  refine ⟨⟨steady.matched, steady.balanced, ?_, steady.sent, steady.within, ?_, ?_, ?_⟩, ?_⟩
  · apply stages_of_one id steady
    · intro other different
      refine view_other rfl rfl (accepted_elsewhere steady.sound.distinct flow different) ?_ ?_ ?_
      · simp [opens, different]
      · simp [view, queued, Ne.symm different]
      · have none : replies.filter (fun packet => decide (packet.packetId = other)) = [] := by
          refine List.filter_eq_nil_iff.mpr fun reply member => ?_
          simpa [answers reply member] using Ne.symm different
        simp [view, none]
    · convert stage using 1
      have flow' : sending { c with
          subscriber
          forward := sent
          backward := c.backward ++ replies
          accepted := c.accepted ++ [c.messages id] } id = some (Session.openingState qos) := flow
      simp [view, flow', opens, noSent, noBackward, own]
  · rw [ownReceiveMaximum, limit]
    exact steady.limit
  · rw [incomingCount, counts, opens, OrderedMap.size_insert_new _ _ closed, steady.received]
  · have new : c.messages id ∉ c.accepted := by simpa [flow] using fresh
    exact (Delivery.Step.accept c.delivery id (c.messages id) (by simp [delivery, flow]) new).sound steady.sound
  · simp only [Conversation.work, queued, opens, OrderedMap.count_insert_new _ _ _ closed, List.map_cons,
      List.sum_cons, List.map_append, List.sum_append, work]
    omega

theorem receivePublish_settles (steady : c.Steady) {qos : QoS} {message : Nat} {sent : List PublisherPacket}
    {reasonCode : UInt8} (success : ¬0x80 ≤ reasonCode) (queued : c.forward = .publish qos id message :: sent) :
    c.Settles ({ c with forward := sent }.receivePublish qos id message reasonCode) := by
  obtain ⟨real, known⟩ := view_of_publish steady queued
  have flow : c.sending id = some (Session.openingState qos) := congrArg View.sending known
  have closed : c.subscriber.qosFlow.incoming.get? id = none := congrArg View.receiving known
  obtain ⟨t, counted, same, counts, limit⟩ := counted_of_publish steady flow closed
  have fresh : t.qosFlow.incoming.contains id = false := by
    rw [same]
    exact OrderedMap.contains_false_iff.mpr closed
  cases qos with
  | exactlyOnce =>
    simp only [receivePublish, Subscriber.handlePublishQos2_counted counted, fresh, Bool.false_eq_true, ↓reduceIte,
      Session.pubrecSent, success]
    refine accept_settles _ _ steady queued ?_ counts limit ?_ (.stored message reasonCode success) rfl
    · rw [← same]
      rfl
    · simp
  | atLeastOnce =>
    simp only [receivePublish, Subscriber.handlePublishQos1_counted counted, reduceCtorEq, ↓reduceIte]
    have opened : (Subscriber.opened t id .incomingAwaitingPuback).qosFlow.incoming =
        c.subscriber.qosFlow.incoming.insert id .incomingAwaitingPuback := by
      rw [← same]
      rfl
    simpa using accept_settles _ [] steady queued opened counts limit (by simp) (.received message) rfl
  | atMostOnce => exact absurd rfl real

theorem close_settles (steady : c.Steady) {sent : List PublisherPacket} {state : FlowState} {reply : SubscriberPacket}
    (present : c.subscriber.qosFlow.incoming.get? id = some state)
    (closes : subscriber.qosFlow.incoming = c.subscriber.qosFlow.incoming.erase id)
    (counts : subscriber.flowControl.incomingCount = c.subscriber.flowControl.incomingCount.saturatingSub 1)
    (limit : subscriber.flowControl.ownReceiveMaximum = c.subscriber.flowControl.ownReceiveMaximum)
    (others : ∀ other, other ≠ id →
      sent.filter (fun packet => decide (packet.packetId = other)) = (c.view other).forward)
    (answers : reply.packetId = id)
    (stage : Stage id { c.view id with
      receiving := none
      forward := sent.filter fun packet => packet.packetId = id
      backward := (c.view id).backward ++ [reply] })
    (work : (sent.map PublisherPacket.work).sum + reply.work + 1 =
      (c.forward.map PublisherPacket.work).sum + 2 * (if unacknowledged state then 1 else 0)) :
    c.Settles { c with subscriber, forward := sent, backward := c.backward ++ [reply] } := by
  refine ⟨⟨steady.matched, steady.balanced, ?_, steady.sent, steady.within, ?_, ?_, steady.sound⟩, ?_⟩
  · apply stages_of_one id steady
    · intro other different
      refine view_other rfl rfl rfl ?_ (others other different) ?_
      · simp [closes, different]
      · simp [view, answers, Ne.symm different]
    · convert stage using 1
      simp [view, sending, closes, answers]
  · rw [ownReceiveMaximum, limit]
    exact steady.limit
  · have size := OrderedMap.size_erase_present _ present
    have before := steady.received
    rw [incomingCount, counts, closes, UInt16.toNat_saturatingSub]
    simp only [incomingCount, UInt16.reduceToNat] at before ⊢
    omega
  · have counted := c.subscriber.qosFlow.incoming.count_erase unacknowledged id
    simp only [present, Option.any_some] at counted
    simp only [Conversation.work, closes, List.map_append, List.sum_append, List.map_cons, List.map_nil, List.sum_cons,
      List.sum_nil]
    omega

theorem receivePubrel_settles (steady : c.Steady) {sent : List PublisherPacket}
    (queued : c.forward = .pubrel id :: sent) : c.Settles ({ c with forward := sent }.receivePubrel id) := by
  obtain ⟨message, known⟩ := view_of_pubrel steady queued
  have present : c.subscriber.qosFlow.incoming.get? id = some .awaitingPubrel := congrArg View.receiving known
  have empty : sent.filter (fun packet => decide (packet.packetId = id)) = [] := by
    have forward := congrArg View.forward known
    simpa [view, queued] using forward
  simp only [receivePubrel, Session.handlePubrel, QosFlowManager.pubrelReceived_finished present]
  refine close_settles steady present rfl rfl rfl ?_ rfl ?_ ?_
  · intro other different
    simp [view, queued, Ne.symm different]
  · rw [known, empty]
    exact .released message
  · have waits : unacknowledged .awaitingPubrel = false := rfl
    simp only [queued, List.map_cons, List.sum_cons, PublisherPacket.work, SubscriberPacket.work, waits,
      Bool.false_eq_true, ↓reduceIte]
    omega

theorem acknowledge_settles (steady : c.Steady)
    (waiting : c.subscriber.qosFlow.incoming.get? id = some .incomingAwaitingPuback) :
    c.Settles { c with subscriber := c.subscriber.pubackSent id, backward := c.backward ++ [.puback id] } := by
  obtain ⟨message, known⟩ := view_of_unacknowledged steady waiting
  refine close_settles steady waiting ?_ rfl rfl (fun other _ => rfl) rfl ?_ rfl
  · simp only [Session.pubackSent, QosFlowManager.pubackSent_finished waiting]
  · have noForward : c.forward.filter (fun packet => decide (packet.packetId = id)) = [] := congrArg View.forward known
    rw [known, noForward]
    exact .acknowledged message

theorem finish_settles (steady : c.Steady) {replied : List SubscriberPacket} {packet : SubscriberPacket}
    {state : FlowState} {message : Nat} (queued : c.backward = packet :: replied) (answers : packet.packetId = id)
    (known : c.view id = ⟨message, true, some state, none, [], [packet]⟩) (balanced : publisher.Balanced)
    (session : publisher.session = c.publisher.session.finishOutgoing id) (work : packet.work = 1) :
    c.Settles { c with publisher, backward := replied, completed := c.completed ++ [c.messages id] } := by
  simp only [view, View.mk.injEq] at known
  obtain ⟨-, taken, flow, closed, noForward, backward⟩ := known
  have noBackward : replied.filter (fun packet => decide (packet.packetId = id)) = [] := by
    simpa [queued, answers] using backward
  have accepted : c.messages id ∈ c.accepted := by simpa [flow] using taken
  obtain ⟨sentFlow, present, -⟩ := Option.map_eq_some_iff.mp flow
  have outgoing : publisher.session.qosFlow.outgoing = c.publisher.session.qosFlow.outgoing.erase id := by
    rw [session]
    rfl
  have outstanding : publisher.session.outstanding = c.publisher.session.outstanding - 1 := by
    rw [session, Publisher.finishOutgoing_outstanding]
  have sendLimit : publisher.session.sendLimit = c.publisher.session.sendLimit := by
    rw [session]
    rfl
  have size : publisher.session.qosFlow.outgoing.size + 1 = c.outgoingCount := by
    rw [outgoing]
    exact OrderedMap.size_erase_present _ present
  have carried := Delivery.Step.complete c.delivery id (c.messages id) (by simp [delivery, flow]) accepted
  refine ⟨⟨steady.matched, balanced, ?_, ?_, ?_, ?_, steady.received, ?_⟩, ?_⟩
  · apply stages_of_one id steady
    · intro other different
      refine view_other rfl ?_ rfl rfl rfl ?_
      · simp [sending, outgoing, different]
      · have elsewhere : packet.packetId ≠ other := answers ▸ Ne.symm different
        simp [view, queued, elsewhere]
    · convert Stage.idle (c.messages id) using 1
      simp [view, sending, outgoing, closed, noForward, noBackward]
  · have before := steady.sent
    rw [outgoingCount]
    simp only [outstanding]
    omega
  · have before := steady.within
    rw [outgoingCount]
    simp only [sendLimit]
    omega
  · rw [sendLimit]
    exact steady.limit
  · convert carried.sound steady.sound using 1
    simp only [delivery, Delivery.mk.injEq, and_true]
    funext other
    by_cases same : other = id
    · subst same
      simp [sending, outgoing]
    · simp [sending, outgoing, same]
  · simp only [Conversation.work, queued, List.map_cons, List.sum_cons, work]
    omega

theorem receivePubrec_settles (steady : c.Steady) {replied : List SubscriberPacket} {reasonCode : UInt8}
    (queued : c.backward = .pubrec id reasonCode :: replied) (balanced : publisher.Balanced) {flow : OutgoingFlow}
    (present : c.publisher.session.qosFlow.outgoing.get? id = some flow)
    (session : publisher.session = c.publisher.session.advanceOutgoing id flow) :
    c.Settles { c with publisher, backward := replied, forward := c.forward ++ [.pubrel id] } := by
  obtain ⟨-, message, known⟩ := view_of_pubrec steady queued
  simp only [view, View.mk.injEq] at known
  obtain ⟨-, taken, waiting, receiving, noForward, backward⟩ := known
  have noBackward : replied.filter (fun packet => decide (packet.packetId = id)) = [] := by
    simpa [queued] using backward
  have accepted : c.messages id ∈ c.accepted := by simpa [waiting] using taken
  obtain ⟨advanced, state, outgoing⟩ : ∃ advanced : OutgoingFlow, advanced.state = .awaitingPubcomp ∧
      publisher.session.qosFlow.outgoing = c.publisher.session.qosFlow.outgoing.insert id advanced := by
    rw [session]
    exact ⟨_, rfl, rfl⟩
  have outstanding : publisher.session.outstanding = c.publisher.session.outstanding := by
    rw [session]
    rfl
  have sendLimit : publisher.session.sendLimit = c.publisher.session.sendLimit := by
    rw [session]
    rfl
  have size : publisher.session.qosFlow.outgoing.size = c.outgoingCount := by
    rw [outgoing, OrderedMap.size_insert_present _ _ present, outgoingCount]
  refine ⟨⟨steady.matched, balanced, ?_, ?_, ?_, ?_, steady.received, ?_⟩, ?_⟩
  · apply stages_of_one id steady
    · intro other different
      refine view_other rfl ?_ rfl rfl ?_ ?_
      · simp [sending, outgoing, different]
      · simp [view, Ne.symm different]
      · simp [view, queued, Ne.symm different]
    · convert Stage.releasing (c.messages id) using 1
      simp [view, sending, outgoing, state, accepted, receiving, noForward, noBackward]
  · rw [outgoingCount, size, outstanding]
    exact steady.sent
  · rw [outgoingCount, size, sendLimit]
    exact steady.within
  · rw [sendLimit]
    exact steady.limit
  · convert steady.sound using 1
    simp only [delivery, Delivery.mk.injEq, and_true]
    funext other
    by_cases same : other = id
    · subst same
      simp [sending, outgoing, present]
    · simp [sending, outgoing, same]
  · simp only [work, queued, List.map_append, List.sum_append, List.map_cons, List.map_nil, List.sum_cons,
      List.sum_nil, PublisherPacket.work, SubscriberPacket.work]
    omega

theorem answered_settles (steady : c.Steady) {packet : SubscriberPacket} {replied : List SubscriberPacket}
    (queued : c.backward = packet :: replied) (step : c.publisher.next (receipt packet) = some publisher) :
    c.Settles ({ c with backward := replied }.answered (result c.publisher.session packet) publisher) := by
  have balanced := PacketIdUser.next_balanced steady.balanced step
  have session := (PacketIdUser.next_eq_some step).2
  cases packet with
  | puback id =>
    obtain ⟨message, known⟩ := view_of_puback steady queued
    obtain ⟨flow, present, waiting⟩ := Option.map_eq_some_iff.mp (congrArg View.sending known)
    have finished := Session.handlePuback_finished present waiting
    simp only [receipt, Session.perform, finished] at session
    simp only [result, finished, answered]
    exact finish_settles steady queued rfl known balanced session rfl
  | pubcomp id =>
    obtain ⟨message, known⟩ := view_of_pubcomp steady queued
    obtain ⟨flow, present, waiting⟩ := Option.map_eq_some_iff.mp (congrArg View.sending known)
    have finished := Session.handlePubcomp_finished present waiting
    simp only [receipt, Session.perform, finished] at session
    simp only [result, finished, answered]
    exact finish_settles steady queued rfl known balanced session rfl
  | pubrec id reasonCode =>
    obtain ⟨success, message, known⟩ := view_of_pubrec steady queued
    obtain ⟨flow, present, waiting⟩ := Option.map_eq_some_iff.mp (congrArg View.sending known)
    have moved := Session.handlePubrec_advanced success present waiting
    simp only [receipt, Session.perform, moved] at session
    simp only [result, moved, answered]
    exact receivePubrec_settles steady queued balanced present session

end Steps

end Conversation

end MqttRs
