import MqttRs.Connection.Handlers
import MqttRs.State.OutgoingChecks

namespace MqttRs

namespace Connection

open V5.IncomingPacket (carried reply message)

variable {c d : Connection} {limits : Side → Limits} {queue : Side → List V5.IncomingPacket}
  {talks : Side → Conversation} {side : Side}

theorem publish_arrives {packet : V5.Publish} {written : List UInt8}
    (encoded : V5.OutgoingPacket.encodeToVec (.publish packet) = .ok written) :
    V5.OutgoingPacket.Arrives (.publish packet) (.publish packet) written ∧
      V5.IncomingPacket.Exchanged (.publish packet) := by
  refine ⟨⟨encoded, rfl⟩, .publish packet ?_⟩
  rw [V5.OutgoingPacket.encodeToVec_eq] at encoded
  have sendable : packet.validate = .ok () := (V5.Packet.encodeToVec_eq_ok.mp encoded).1
  exact (V5.Publish.validate_eq_ok.mp sendable).1.identified

theorem Announced.fits {s : Session} {limits : Limits} (announced : Announced s limits) {qos : QoS} {retain : Bool}
    {size : Nat} (valid : s.validateOutgoingPublish qos retain size = .ok ()) : size ≤ limits.maxPacketSize := by
  obtain ⟨-, limit, known, within⟩ := announced
  rw [Session.validateOutgoingPublish, ServerCapabilities.validatePublish_eq_ok] at valid
  exact (valid.2.2 limit known).trans within

theorem Spoken.lines (spoken : c.Spoken limits queue talks) (lines : Side → Line) :
    Spoken { c with lines } limits queue talks where
  matched := spoken.matched
  announced := spoken.announced
  carries each := by
    obtain ⟨publisher, subscriber, forward, backward, steady⟩ := spoken.carries each
    exact ⟨publisher, subscriber, forward, backward, steady⟩
  inOrder := spoken.inOrder

theorem arrive_agrees (agrees : c.Agrees limits queue talks) {count : Nat} {line : Line}
    (arrives : (c.lines side).arrive count = some line) :
    Agrees { c with lines := Function.update c.lines side line } limits queue talks := by
  refine ⟨?_, agrees.spoken.lines _⟩
  have changed := agrees.wired.change (d := { c with lines := Function.update c.lines side line }) rfl
    (Line.arrive_sameKind arrives) ((agrees.wired.holds side).arrive arrives) (agrees.wired.exchanged side)
  rwa [Function.update_eq_self] at changed

theorem take_agrees (agrees : c.Agrees limits queue talks) (side : Side) :
    (c.lines side.other).decoder.decode.1 = .ok none ∧ (c.take side).Agrees limits queue talks ∨
      c.Settles limits queue talks (c.take side) := by
  obtain ⟨lines, ⟨waits, same, wired⟩ | ⟨packet, rest, queued, same, exchanged, wired⟩⟩ := take_cases agrees.wired side
  · rw [same]
    exact .inl ⟨waits, wired, agrees.spoken.lines lines⟩
  · rw [same]
    exact .inr (handleIncoming_settles (agrees.spoken.lines lines) wired queued exchanged)

theorem acknowledge_settles (agrees : c.Agrees limits queue talks) {id : UInt16}
    (waiting : (c.session side).qosFlow.incoming.get? id = some .incomingAwaitingPuback)
    (step : c.next (.acknowledge side id) = some d) : c.Settles limits queue talks d := by
  obtain ⟨wired, spoken⟩ := agrees
  have steady := (spoken.carries side.other).steady
  have subscriber := spoken.subscriber side
  rw [← subscriber] at waiting
  obtain ⟨number, known⟩ := Conversation.view_of_unacknowledged steady waiting
  have nonzero := nonzero_of_sending steady (congrArg Conversation.View.sending known)
  have settles := Conversation.acknowledge_settles steady waiting
  rw [subscriber] at settles waiting
  have same : c.Wired limits (Function.update queue side.other (queue side.other)) := by
    rwa [Function.update_eq_self]
  obtain ⟨lines, sends, answered⟩ := sendPacket_answers nonzero .pubAck (spoken.announced side).1 same
  have after : d = c.after side ((c.session side).pubackSent id) lines [] := by
    simp only [next, waiting, ↓reduceIte, sends, Option.some.injEq] at step
    rw [← step]
    simp [Connection.after, setSession, setUser, Connection.session]
  rw [after]
  exact settles_of_message [] spoken rfl answered ((Received.refl (spoken.balanced side)).perform (.pubackSent id) rfl)
    settles rfl rfl (spoken.carries side.other).forward rfl (by simp) (by simp [reply])

theorem call_agrees (agrees : c.Agrees limits queue talks) {op : SessionOp}
    (step : c.next (.call side op) = some d) : ∃ later, d.Agrees limits queue later := by
  obtain ⟨wired, spoken⟩ := agrees
  simp only [next] at step
  split at step
  · rename_i keeps
    obtain ⟨user, called, rfl⟩ := Option.map_eq_some_iff.mp step
    simp only [aside, Bool.and_eq_true] at keeps
    have session := (PacketIdUser.next_eq_some called).2
    have balanced := PacketIdUser.next_balanced (spoken.balanced side) called
    have sending := (c.users side).session.perform_sameSending keeps.1.1
    have receiving := (c.users side).session.perform_sameReceiving keeps.1.2
    have untouched := (c.users side).session.perform_untouched keeps.2
    rw [← session] at sending receiving untouched
    have publishing : (c.setUser side user).Carries queue side { talks side with publisher := user } := by
      refine (spoken.carries side).publisher_aside balanced sending ?_ ?_ rfl rfl
      · simp [setUser]
      · simp [setUser, Connection.session]
    have subscribing := spoken.subscribing_aside (d := c.setUser side user) rfl receiving rfl rfl
    exact ⟨_, wired.congr rfl, spoken.change rfl spoken.matched untouched.serverCapabilities publishing subscribing
      spoken.inOrder⟩
  · cases step

theorem inOrder_published (spoken : c.Spoken limits queue talks) {packet : V5.Publish} (each : Side) :
    c.accepted each ++ (Function.update queue side (queue side ++ [.publish packet]) each).filterMap message =
      Function.update c.published side (c.published side ++ [packet]) each := by
  have before := spoken.inOrder each
  rcases each.eq_or_other side with rfl | rfl
  · simp [← before, message]
  · simpa using before

theorem publishQos0_agrees (agrees : c.Agrees limits queue talks) {packet : V5.Publish} {written : List UInt8}
    (arrives : V5.OutgoingPacket.Arrives (.publish packet) (.publish packet) written)
    (exchanged : V5.IncomingPacket.Exchanged (.publish packet)) (fits : written.length ≤ (limits side).maxPacketSize)
    (unnamed : packet.packetId = none) :
    Agrees (sendPacket { c with published := Function.update c.published side (c.published side ++ [packet]) } side
      (.publish packet)) limits (Function.update queue side (queue side ++ [.publish packet])) talks := by
  obtain ⟨wired, spoken⟩ := agrees
  have noForward : carried (.publish packet) = none := by simp [carried, unnamed]
  have noReply : reply (.publish packet) = none := rfl
  obtain ⟨lines, sends, sent⟩ := sendPacket_arrives
    (wired.congr (d := { c with published := Function.update c.published side (c.published side ++ [packet]) }) rfl)
    arrives exchanged fits
  rw [sends]
  refine ⟨sent, spoken.matched, spoken.announced, ?_, inOrder_published spoken⟩
  intro each
  obtain ⟨publisher, subscriber, forward, backward, steady⟩ := spoken.carries each
  rcases each.eq_or_other side with rfl | rfl
  · exact ⟨publisher, subscriber, by simpa [noForward] using forward, by simpa using backward, steady⟩
  · exact ⟨publisher, subscriber, by simpa using forward, by simpa [noReply] using backward, steady⟩

theorem publishFlow_agrees (agrees : c.Agrees limits queue talks) {packet : V5.Publish} {written : List UInt8}
    {id : UInt16} {user : PacketIdUser}
    (arrives : V5.OutgoingPacket.Arrives (.publish packet) (.publish packet) written)
    (exchanged : V5.IncomingPacket.Exchanged (.publish packet)) (fits : written.length ≤ (limits side).maxPacketSize)
    (named : packet.packetId = some id) (sent : ((c.session side).publishSent packet.qos id).1 = .ok ())
    (step : (c.users side).next (.publishSent packet.qos id) = some user) :
    ∃ later, Agrees (sendPacket (setUser
      { c with published := Function.update c.published side (c.published side ++ [packet]) } side user) side
      (.publish packet)) limits (Function.update queue side (queue side ++ [.publish packet])) later := by
  obtain ⟨wired, spoken⟩ := agrees
  have carries := spoken.carries side
  have publishes : carried (.publish packet) = some (.publish packet.qos id 0) := by simp [carried, named]
  have noReply : reply (.publish packet) = none := rfl
  have session := (PacketIdUser.next_eq_some step).2
  have keeps : Session.keepsReceiving (.publishSent packet.qos id) = true ∧
      Session.keepsConnection (.publishSent packet.qos id) = true := ⟨rfl, rfl⟩
  have receiving := (c.users side).session.perform_sameReceiving keeps.1
  have untouched := (c.users side).session.perform_untouched keeps.2
  rw [← session] at receiving untouched
  have steady := Conversation.publish_steady carries.steady (carries.publisher ▸ step)
  have accepted : ((talks side).publisher.session.publishSent packet.qos id).1 = .ok () := by
    rw [carries.publisher]
    exact sent
  simp only [Conversation.publish, accepted, ↓reduceIte] at steady
  obtain ⟨lines, sends, wired⟩ := sendPacket_arrives (wired.congr (d := setUser
    { c with published := Function.update c.published side (c.published side ++ [packet]) } side user) rfl) arrives
    exchanged fits
  rw [sends]
  refine ⟨_, wired, spoken.change rfl spoken.matched untouched.serverCapabilities
    ⟨?_, ?_, ?_, ?_, steady⟩ (spoken.subscribing_aside rfl receiving ?_ ?_) (inOrder_published spoken)⟩
  · simp [setUser]
  · simp [setUser, Connection.session, carries.subscriber]
  · simp [carries.forward, publishes, PublisherPacket.unnumbered]
  · simp [carries.backward]
  · simp
  · simp [noReply]

theorem publish_agrees (agrees : c.Agrees limits queue talks) {packet : V5.Publish}
    (step : c.publish side packet = some d) :
    ∃ later, d.Agrees limits (Function.update queue side (queue side ++ [.publish packet])) later := by
  unfold publish at step
  split at step
  · rename_i written encoded
    obtain ⟨arrives, exchanged⟩ := publish_arrives encoded
    split at step
    · rename_i valid
      have fits := (agrees.spoken.announced side).fits valid
      cases named : packet.packetId with
      | none =>
        simp only [named, Option.some.injEq] at step
        exact ⟨talks, step ▸ publishQos0_agrees agrees arrives exchanged fits named⟩
      | some id =>
        simp only [named] at step
        split at step
        · rename_i sent
          obtain ⟨user, called, rfl⟩ := Option.map_eq_some_iff.mp step
          exact publishFlow_agrees agrees arrives exchanged fits named sent called
        · cases step
    · cases step
  · cases step

/-- The packets on the lines and the conversations that they belong to. -/
def Sound (limits : Side → Limits) (c : Connection) : Prop := ∃ queue talks, c.Agrees limits queue talks

theorem next_sound {op : ConnectionOp} (sound : c.Sound limits) (step : Steps next c op d) : d.Sound limits := by
  obtain ⟨queue, talks, agrees⟩ := sound
  cases op with
  | publish side packet =>
    obtain ⟨later, agrees⟩ := publish_agrees agrees step
    exact ⟨_, later, agrees⟩
  | arrive side count =>
    obtain ⟨line, arrives, rfl⟩ := Option.map_eq_some_iff.mp step
    exact ⟨queue, talks, arrive_agrees agrees arrives⟩
  | take side =>
    obtain rfl := Option.some.inj step
    rcases take_agrees agrees side with ⟨-, agrees⟩ | ⟨-, changed, later, agrees, -⟩
    · exact ⟨queue, talks, agrees⟩
    · exact ⟨changed, later, agrees⟩
  | acknowledge side id =>
    by_cases waiting : (c.session side).qosFlow.incoming.get? id = some .incomingAwaitingPuback
    · obtain ⟨-, changed, later, agrees, -⟩ := acknowledge_settles agrees waiting step
      exact ⟨changed, later, agrees⟩
    · simp only [Steps, next, waiting, ↓reduceIte] at step
      cases step
  | call side op =>
    obtain ⟨later, agrees⟩ := call_agrees agrees step
    exact ⟨queue, later, agrees⟩

/-- Both sides start the connection without flows, keep to the Receive Maximum of the other side, and know a Maximum
    Packet Size that its decoder takes. -/
structure Joined (users : Side → PacketIdUser) (limits : Side → Limits) : Prop where
  paired : ∀ side, Conversation.Paired (users side) (users side.other).session
  announced : ∀ side, Announced (users side).session (limits side)

variable {users : Side → PacketIdUser}

theorem start_sound (joined : Joined users limits) : (start users limits).Sound limits := by
  refine ⟨fun _ => [], fun side => .start (users side) (users side.other).session, start_wired users limits, ?_⟩
  exact ⟨rfl, joined.announced, fun side => ⟨rfl, rfl, rfl, rfl, Conversation.start_steady (joined.paired side)⟩,
    fun _ => rfl⟩

/-- No packet is refused or unexpected, the messages of each side arrive as they were published and in that order, and
    no side sends more than the other can take. -/
structure Safe (c : Connection) : Prop where
  understood : c.failed = false
  inOrder : ∀ side, c.accepted side <+: c.published side
  sent : ∀ side, (c.session side).outstanding = (c.session side).qosFlow.outgoing.size
  received : ∀ side, (c.session side).flowControl.incomingCount.toNat = (c.session side).qosFlow.incoming.size
  within : ∀ side, (c.session side).qosFlow.outgoing.size ≤ (c.session side.other).flowControl.ownReceiveMaximum.toNat

theorem Sound.safe (sound : c.Sound limits) : c.Safe := by
  obtain ⟨queue, talks, -, spoken⟩ := sound
  refine ⟨spoken.matched, fun side => ⟨_, spoken.inOrder side⟩, ?_, ?_, ?_⟩ <;> intro side
  · have sent := (spoken.carries side).steady.sent
    rw [Conversation.outgoingCount, (spoken.carries side).publisher] at sent
    exact sent
  · have received := (spoken.carries side.other).steady.received
    rw [Conversation.incomingCount, (spoken.carries side.other).subscriber, Side.other_other] at received
    exact received
  · have within := (spoken.carries side).steady.safe.within
    rw [Conversation.outgoingCount, Conversation.ownReceiveMaximum, (spoken.carries side).publisher,
      (spoken.carries side).subscriber] at within
    exact within

def answer : V5.Publish := ⟨false, .atLeastOnce, true, "b", some 1, .new, []⟩

end Connection

end MqttRs
