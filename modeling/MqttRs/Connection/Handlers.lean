import MqttRs.Connection.Steps

namespace MqttRs

namespace Connection

open V5.IncomingPacket (carried reply message)

variable {c d : Connection} {limits : Side → Limits} {queue : Side → List V5.IncomingPacket}
  {talks : Side → Conversation} {side : Side} {packet : V5.IncomingPacket} {rest : List V5.IncomingPacket} {id : UInt16}

section Queued

variable {talk : Conversation}

theorem publish_of_unnumbered {packet : PublisherPacket} {qos : QoS} {message : Nat}
    (same : packet.unnumbered = .publish qos id message) : ∃ number, packet = .publish qos id number := by
  cases packet with
  | publish qos id number =>
    cases same
    exact ⟨number, rfl⟩
  | pubrel id => cases same

theorem pubrel_of_unnumbered {packet : PublisherPacket} (same : packet.unnumbered = .pubrel id) :
    packet = .pubrel id := by
  cases packet with
  | publish qos id number => cases same
  | pubrel id => exact same

/-- The first packet of a line is the first one of the conversation that it belongs to. -/
theorem Carries.forward_queued (carries : c.Carries queue side talk) (queued : queue side = packet :: rest)
    {head : PublisherPacket} (carries' : carried packet = some head) :
    ∃ first sent, talk.forward = first :: sent ∧ first.unnumbered = head ∧
      sent.map .unnumbered = rest.filterMap carried := by
  have forward := carries.forward
  rw [queued, List.filterMap_cons_some carries'] at forward
  obtain ⟨first, sent, whole, same, left⟩ := List.map_eq_cons_iff.mp forward
  exact ⟨first, sent, whole, same, left⟩

theorem Carries.backward_queued (carries : c.Carries queue side talk) (queued : queue side.other = packet :: rest)
    {head : SubscriberPacket} (replies : reply packet = some head) :
    talk.backward = head :: rest.filterMap reply := by
  rw [carries.backward, queued, List.filterMap_cons_some replies]

theorem nonzero_of_sending (steady : talk.Steady) {state : FlowState} (flow : talk.sending id = some state) : id ≠ 0 := by
  rintro rfl
  obtain ⟨open', present, -⟩ := Option.map_eq_some_iff.mp flow
  have busy : 0 < talk.publisher.session.exchanges 0 := by
    have contains : talk.publisher.session.qosFlow.outgoing.contains 0 = true := OrderedMap.contains_iff.mpr ⟨open', present⟩
    simp only [Session.exchanges, contains, Bool.toNat_true]
    omega
  obtain ⟨-, -, used⟩ := PacketIdUser.inUse_of_exchanges steady.balanced busy
  exact PacketIdManager.zero_not_inUse steady.balanced.1 used

end Queued

theorem Spoken.balanced (spoken : c.Spoken limits queue talks) (side : Side) : (c.users side).Balanced := by
  rw [← (spoken.carries side).publisher]
  exact (spoken.carries side).steady.balanced

theorem Spoken.subscriber (spoken : c.Spoken limits queue talks) (side : Side) :
    (talks side.other).subscriber = c.session side := by
  have subscriber := (spoken.carries side.other).subscriber
  rwa [Side.other_other] at subscriber

/-- A message of QoS 2 is new: it reaches the application, and its PUBREC is on its way. -/
theorem publishQos2_settles (spoken : c.Spoken limits queue talks) {packet : V5.Publish}
    (wired : c.Wired limits (Function.update queue side.other rest))
    (queued : queue side.other = .publish packet :: rest) (qos : packet.qos = .exactlyOnce)
    (named : packet.packetId = some id) : c.Settles limits queue talks (c.handleIncoming side (.publish packet)) := by
  have carries := spoken.carries side.other
  have publishes : carried (.publish packet) = some (.publish .exactlyOnce id 0) := by simp [carried, named, qos]
  obtain ⟨first, sent, talkQueued, same, left⟩ := carries.forward_queued queued publishes
  obtain ⟨number, rfl⟩ := publish_of_unnumbered same
  obtain ⟨-, known⟩ := Conversation.view_of_publish carries.steady talkQueued
  have nonzero := nonzero_of_sending carries.steady (congrArg Conversation.View.sending known)
  have success : ¬(0x80 : UInt8) ≤ 0 := by decide
  have settles := Conversation.receivePublish_settles carries.steady success talkQueued
  have subscriber := spoken.subscriber side
  have answer := handlePublishQos2_queued carries.steady talkQueued
  rw [subscriber] at answer
  have received : Received (c.users side) ((c.session side).handlePublishQos2 id).2 :=
    (Received.refl (spoken.balanced side)).perform (.handlePublishQos2 id) rfl
  cases result : (c.session side).handlePublishQos2 id with
  | mk action session =>
    rw [result] at answer received
    obtain rfl : action = _ := answer
    obtain ⟨lines, sends, answered⟩ := sendPacket_answers nonzero .pubRec (spoken.announced side).1
      (wired.congr (d := c.setSession side session) rfl)
    have after : c.handleIncoming side (.publish packet) = c.after side (session.pubrecSent 0) lines [packet] := by
      simp only [handleIncoming, handleIncomingPublish, qos, named, result, sends]
      simp [Connection.after, setSession, setUser, deliver, Connection.session]
      rfl
    rw [after]
    simp only [Conversation.receivePublish, subscriber, result, ↓reduceIte] at settles
    exact settles_of_message [.publish packet] spoken queued (answered.congr rfl) (received.perform (.pubrecSent 0) rfl)
      settles rfl rfl left rfl (by simp [carried, named]) (by simp [reply])

theorem publishQos1_settles (spoken : c.Spoken limits queue talks) {packet : V5.Publish}
    (wired : c.Wired limits (Function.update queue side.other rest))
    (queued : queue side.other = .publish packet :: rest) (qos : packet.qos = .atLeastOnce)
    (named : packet.packetId = some id) : c.Settles limits queue talks (c.handleIncoming side (.publish packet)) := by
  have carries := spoken.carries side.other
  have publishes : carried (.publish packet) = some (.publish .atLeastOnce id 0) := by simp [carried, named, qos]
  obtain ⟨first, sent, talkQueued, same, left⟩ := carries.forward_queued queued publishes
  obtain ⟨number, rfl⟩ := publish_of_unnumbered same
  have success : ¬(0x80 : UInt8) ≤ 0 := by decide
  have settles := Conversation.receivePublish_settles carries.steady success talkQueued
  have subscriber := spoken.subscriber side
  have answer := handlePublishQos1_queued carries.steady talkQueued
  rw [subscriber] at answer
  have received : Received (c.users side) ((c.session side).handlePublishQos1 id).2 :=
    (Received.refl (spoken.balanced side)).perform (.handlePublishQos1 id) rfl
  cases result : (c.session side).handlePublishQos1 id with
  | mk action session =>
    rw [result] at answer received
    obtain rfl : action = _ := answer
    have after : c.handleIncoming side (.publish packet) = c.after side session c.lines [packet] := by
      simp only [handleIncoming, handleIncomingPublish, qos, named, result]
      rfl
    rw [after]
    simp only [Conversation.receivePublish, subscriber, result, reduceCtorEq, ↓reduceIte] at settles
    rw [← answered_nil] at wired
    exact settles_of_message [.publish packet] spoken queued wired received settles rfl rfl left
      (List.append_nil _).symm (by simp [carried, named]) (by simp)

theorem publishQos0_settles (spoken : c.Spoken limits queue talks) {packet : V5.Publish}
    (wired : c.Wired limits (Function.update queue side.other rest))
    (queued : queue side.other = .publish packet :: rest) (qos : packet.qos = .atMostOnce)
    (unnamed : packet.packetId = none) : c.Settles limits queue talks (c.handleIncoming side (.publish packet)) := by
  have noForward : carried (.publish packet) = none := by simp [carried, unnamed]
  have noReply : reply (.publish packet) = none := rfl
  have single : plain (.publish packet) = true := by simp [plain, noForward, noReply]
  have after : c.handleIncoming side (.publish packet) = c.deliver side packet := by
    simp only [handleIncoming, handleIncomingPublish, qos]
  rw [after]
  refine ⟨rfl, _, talks, ⟨wired.congr rfl, spoken.matched, spoken.announced, ?_, ?_⟩, ?_⟩
  · intro each
    obtain ⟨publisher, subscriber, forward, backward, steady⟩ := spoken.carries each
    rcases each.eq_or_other side with rfl | rfl
    · refine ⟨publisher, subscriber, ?_, ?_, steady⟩
      · simpa using forward
      · simpa [queued, noReply] using backward
    · refine ⟨publisher, subscriber, ?_, ?_, steady⟩
      · simpa [queued, noForward] using forward
      · simpa using backward
  · intro each
    have before := spoken.inOrder each
    rcases each.eq_or_other side with rfl | rfl
    · simpa [deliver] using before
    · rw [queued] at before
      simpa [deliver, message] using before
  · rw [work_eq _ _ side, work_eq _ _ side]
    simp only [sideWork, Function.update_self, Function.update_of_ne side.ne_other, queued, List.countP_cons, single,
      ↓reduceIte]
    omega

theorem pubrel_settles (spoken : c.Spoken limits queue talks) {packet : V5.PubRel}
    (wired : c.Wired limits (Function.update queue side.other rest))
    (queued : queue side.other = .pubRel packet :: rest) :
    c.Settles limits queue talks (c.handleIncoming side (.pubRel packet)) := by
  have carries := spoken.carries side.other
  obtain ⟨first, sent, talkQueued, same, left⟩ := carries.forward_queued queued rfl
  obtain rfl := pubrel_of_unnumbered same
  obtain ⟨number, known⟩ := Conversation.view_of_pubrel carries.steady talkQueued
  have nonzero := nonzero_of_sending carries.steady (congrArg Conversation.View.sending known)
  have settles := Conversation.receivePubrel_settles carries.steady talkQueued
  have subscriber := spoken.subscriber side
  have answer := handlePubrel_queued carries.steady talkQueued
  rw [subscriber] at answer
  have received : Received (c.users side) ((c.session side).handlePubrel packet.packetId).2 :=
    (Received.refl (spoken.balanced side)).perform (.handlePubrel packet.packetId) rfl
  cases result : (c.session side).handlePubrel packet.packetId with
  | mk action session =>
    rw [result] at answer received
    obtain rfl : action = _ := answer
    obtain ⟨lines, sends, answered⟩ := sendPacket_answers nonzero .pubComp (spoken.announced side).1
      (wired.congr (d := c.setSession side session) rfl)
    have after : c.handleIncoming side (.pubRel packet) = c.after side session.pubcompSent lines [] := by
      simp only [handleIncoming, handleIncomingPubrel, result, sends]
      simp [Connection.after, setSession, setUser, Connection.session]
    rw [after]
    simp only [Conversation.receivePubrel, subscriber, result] at settles
    exact settles_of_message [.pubRel packet] spoken queued (answered.congr rfl) (received.perform .pubcompSent rfl)
      settles rfl rfl left rfl (by simp [carried]) (by simp [reply])

/-- The call for an acknowledgement carries the conversation on, and only the one in which the side publishes. -/
theorem reply_called (spoken : c.Spoken limits queue talks) (queued : queue side.other = packet :: rest)
    {ack : SubscriberPacket} (replies : reply packet = some ack) {session : Session}
    (call : (c.session side).perform (Conversation.receipt ack) = session) :
    (talks side).Settles (Conversation.answered { talks side with backward := rest.filterMap reply }
        (Conversation.result (c.session side) ack) { c.users side with session }) ∧
      Session.SameReceiving (c.session side) session ∧
      session.serverCapabilities = (c.session side).serverCapabilities := by
  have carries := spoken.carries side
  have step : (talks side).publisher.next (Conversation.receipt ack) = some { c.users side with session } := by
    rw [carries.publisher, ← call]
    cases ack <;> rfl
  have settles := Conversation.answered_settles carries.steady (carries.backward_queued queued replies) step
  rw [carries.publisher] at settles
  have keeps : Session.keepsReceiving (Conversation.receipt ack) = true ∧
      Session.keepsConnection (Conversation.receipt ack) = true := by
    cases ack <;> exact ⟨rfl, rfl⟩
  have same := (c.session side).perform_sameReceiving keeps.1
  have untouched := (c.session side).perform_untouched keeps.2
  rw [call] at same untouched
  exact ⟨settles, same, untouched.serverCapabilities⟩

theorem flowEnded_settles (spoken : c.Spoken limits queue talks)
    (wired : c.Wired limits (Function.update queue side.other rest)) (queued : queue side.other = packet :: rest)
    {ack : SubscriberPacket} (replies : reply packet = some ack) {result : Except FlowError (Option Action) × Session}
    (answer : Conversation.result (c.session side) ack = result.1)
    (ends : result.1 = .ok (some (.complete ack.packetId)))
    (call : (c.session side).perform (Conversation.receipt ack) = result.2) :
    c.Settles limits queue talks (c.flowEnded side result) := by
  obtain ⟨settles, same, capabilities⟩ := reply_called spoken queued replies call
  have after : c.flowEnded side result = c.after side result.2 c.lines [] := by
    obtain ⟨outcome, session⟩ := result
    obtain rfl : outcome = _ := ends
    simp [flowEnded, Connection.after, setSession, setUser]
  rw [answer, ends] at settles
  rw [after]
  rw [← answered_nil] at wired
  exact settles_of_reply spoken queued wired capabilities same settles rfl rfl (List.append_nil _).symm rfl rfl
    (by simp [replies]) (by simp)

theorem pubrec_settles (spoken : c.Spoken limits queue talks) {packet : V5.PubRec}
    (wired : c.Wired limits (Function.update queue side.other rest))
    (queued : queue side.other = .pubRec packet :: rest) :
    c.Settles limits queue talks (c.handleIncoming side (.pubRec packet)) := by
  have carries := spoken.carries side
  have talkQueued := carries.backward_queued queued rfl
  obtain ⟨-, number, known⟩ := Conversation.view_of_pubrec carries.steady talkQueued
  have nonzero := nonzero_of_sending carries.steady (congrArg Conversation.View.sending known)
  have answer := handlePubrec_queued carries.steady talkQueued
  rw [carries.publisher] at answer
  obtain ⟨settles, same, capabilities⟩ := reply_called spoken queued rfl rfl
  simp only [Conversation.result, Conversation.receipt, Session.perform] at settles same capabilities
  cases result : (c.session side).handlePubrec packet.packetId (ByteCode.asU8 packet.reasonCode) with
  | mk action session =>
    rw [result] at settles same capabilities
    obtain rfl : action = _ := (congrArg Prod.fst result).symm.trans answer
    obtain ⟨lines, sends, answered⟩ := sendPacket_answers nonzero .pubRel (spoken.announced side).1
      (wired.congr (d := c.setSession side session) rfl)
    have after : c.handleIncoming side (.pubRec packet) = c.after side session lines [] := by
      simp only [handleIncoming, handleIncomingPubrec, result, sends]
      simp [Connection.after, setSession, setUser]
    rw [after]
    exact settles_of_reply spoken queued (answered.congr rfl) capabilities same settles rfl rfl rfl rfl rfl rfl
      (by simp)

theorem handleIncoming_settles (spoken : c.Spoken limits queue talks)
    (wired : c.Wired limits (Function.update queue side.other rest)) (queued : queue side.other = packet :: rest)
    (exchanged : packet.Exchanged) : c.Settles limits queue talks (c.handleIncoming side packet) := by
  cases exchanged with
  | publish packet identified =>
    cases named : packet.packetId with
    | none =>
      have qos : packet.qos = .atMostOnce := by simpa [named] using identified
      exact publishQos0_settles spoken wired queued qos named
    | some id =>
      have real : packet.qos ≠ .atMostOnce := by simpa [named] using identified
      cases qos : packet.qos with
      | atMostOnce => exact absurd qos real
      | atLeastOnce => exact publishQos1_settles spoken wired queued qos named
      | exactlyOnce => exact publishQos2_settles spoken wired queued qos named
  | pubAck packet =>
    have carries := spoken.carries side
    have ends := handlePuback_queued carries.steady (carries.backward_queued queued rfl)
    rw [carries.publisher] at ends
    exact flowEnded_settles spoken wired queued rfl rfl ends rfl
  | pubRec packet => exact pubrec_settles spoken wired queued
  | pubRel packet => exact pubrel_settles spoken wired queued
  | pubComp packet =>
    have carries := spoken.carries side
    have ends := handlePubcomp_queued carries.steady (carries.backward_queued queued rfl)
    rw [carries.publisher] at ends
    exact flowEnded_settles spoken wired queued rfl rfl ends rfl

end Connection

end MqttRs
