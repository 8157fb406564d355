import MqttRs.Connection.Spoken

namespace MqttRs

namespace Connection

open V5.IncomingPacket (carried reply message)

variable {c d : Connection} {limits : Side → Limits} {queue : Side → List V5.IncomingPacket}
  {talks : Side → Conversation} {side : Side} {packet : V5.IncomingPacket} {rest replies : List V5.IncomingPacket}

/-- The connection carries these packets, and they are those of these conversations. -/
structure Agrees (c : Connection) (limits : Side → Limits) (queue : Side → List V5.IncomingPacket)
    (talks : Side → Conversation) : Prop where
  wired : c.Wired limits queue
  spoken : c.Spoken limits queue talks

def Settles (c : Connection) (limits : Side → Limits) (queue : Side → List V5.IncomingPacket)
    (talks : Side → Conversation) (d : Connection) : Prop :=
  d.published = c.published ∧
    ∃ changed later, d.Agrees limits changed later ∧ work changed later + 1 = work queue talks

/-- The packets on their way once a side has taken the first one and sent these. -/
def answered (queue : Side → List V5.IncomingPacket) (side : Side) (rest replies : List V5.IncomingPacket) :
    Side → List V5.IncomingPacket :=
  Function.update (Function.update queue side.other rest) side (queue side ++ replies)

@[simp] theorem answered_self (side : Side) : answered queue side rest replies side = queue side ++ replies := by
  simp [answered]

@[simp] theorem answered_other (side : Side) : answered queue side rest replies side.other = rest := by
  simp [answered]

@[simp] theorem answered_nil (side : Side) :
    answered queue side rest [] = Function.update queue side.other rest := by
  rw [answered, List.append_nil]
  conv_rhs => rw [← Function.update_eq_self side (Function.update queue side.other rest)]
  rw [Function.update_of_ne side.ne_other]

theorem sendPacket_answers {outgoing : V5.OutgoingPacket} {incoming : V5.IncomingPacket} {id : UInt16} (nonzero : id ≠ 0)
    (acknowledges : V5.Acknowledges id outgoing incoming) (room : 6 ≤ (limits side).maxPacketSize)
    (wired : c.Wired limits (Function.update queue side.other rest)) :
    ∃ lines, c.sendPacket side outgoing = { c with lines } ∧
      Wired { c with lines } limits (answered queue side rest [incoming]) := by
  obtain ⟨written, arrives, six⟩ := acknowledges.arrives nonzero
  have exchanged : incoming.Exchanged := by
    cases acknowledges <;> constructor
  have sent := sendPacket_arrives wired arrives exchanged (six ▸ room)
  rwa [Function.update_of_ne side.ne_other] at sent

/-- The connection once a side has called its session for a packet, with the messages that its application got. -/
def after (c : Connection) (side : Side) (session : Session) (lines : Side → Line) (got : List V5.Publish) : Connection :=
  { c with
    users := Function.update c.users side { c.users side with session }
    lines
    accepted := Function.update c.accepted side.other (c.accepted side.other ++ got) }

section After

variable {session : Session} {lines : Side → Line} {got : List V5.Publish}

@[simp] theorem after_users_self : (c.after side session lines got).users side = { c.users side with session } := by
  simp [after]

@[simp] theorem after_users_other : (c.after side session lines got).users side.other = c.users side.other := by
  simp [after]

@[simp] theorem after_session_self : (c.after side session lines got).session side = session := by
  simp [Connection.session]

@[simp] theorem after_session_other : (c.after side session lines got).session side.other = c.session side.other := by
  simp [Connection.session]

@[simp] theorem after_accepted_self : (c.after side session lines got).accepted side = c.accepted side := by
  simp [after]

@[simp] theorem after_accepted_other :
    (c.after side session lines got).accepted side.other = c.accepted side.other ++ got := by
  simp [after]

@[simp] theorem after_published : (c.after side session lines got).published = c.published := rfl

@[simp] theorem after_lines : (c.after side session lines got).lines = lines := rfl

end After

theorem silent_of_reply (answers : ∀ each ∈ replies, (reply each).isSome) :
    replies.filterMap carried = [] ∧ replies.filterMap message = [] ∧ replies.countP plain = 0 := by
  have each (packet : V5.IncomingPacket) (member : packet ∈ replies) :
      carried packet = none ∧ message packet = none ∧ plain packet = false := by
    have answer := answers packet member
    cases packet <;> first | exact ⟨rfl, rfl, rfl⟩ | cases answer
  exact ⟨List.filterMap_eq_nil_iff.mpr fun packet member => (each packet member).1,
    List.filterMap_eq_nil_iff.mpr fun packet member => (each packet member).2.1,
    List.countP_eq_zero.mpr fun packet member => Bool.eq_false_iff.mp (each packet member).2.2⟩

def receives : SessionOp → Bool
  | .handlePublishQos1 _ | .handlePublishQos2 _ | .handlePubrel _ => true
  | .pubackSent _ | .pubrecSent _ | .pubcompSent => true
  | _ => false

/-- A session reached by such calls: it has the same messages of its own, and the same identifiers. -/
structure Received (user : PacketIdUser) (session : Session) : Prop where
  capabilities : session.serverCapabilities = user.session.serverCapabilities
  same : Session.SameSending user.session session
  balanced : PacketIdUser.Balanced { user with session }

theorem Received.refl {user : PacketIdUser} (balanced : user.Balanced) : Received user user.session :=
  ⟨rfl, .refl _, balanced⟩

theorem Received.perform {user : PacketIdUser} {session : Session} (received : Received user session) (op : SessionOp)
    (call : receives op = true) : Received user (session.perform op) := by
  have keeps : Session.keepsSending op = true ∧ Session.keepsConnection op = true := by
    cases op <;> first | exact ⟨rfl, rfl⟩ | cases call
  have step : PacketIdUser.next { user with session } op = some { user with session := session.perform op } := by
    cases op <;> first | rfl | cases call
  have same := session.perform_sameSending keeps.1
  refine ⟨?_, ⟨?_, ?_, ?_⟩, ?_⟩
  · exact (session.perform_untouched keeps.2).serverCapabilities.trans received.capabilities
  · exact same.outgoing.trans received.same.outgoing
  · exact same.outstandingCount.trans received.same.outstandingCount
  · exact same.receiveMaximum.trans received.same.receiveMaximum
  · exact PacketIdUser.next_balanced received.balanced step

theorem unanswered_of_carried {taken : List V5.IncomingPacket} (carries : ∀ each ∈ taken, (carried each).isSome) :
    taken.filterMap reply = [] ∧ taken.countP plain = 0 := by
  have each (packet : V5.IncomingPacket) (member : packet ∈ taken) : reply packet = none ∧ plain packet = false := by
    have carried' := carries packet member
    constructor
    · cases packet <;> first | rfl | cases carried'
    · rw [plain, Option.isNone_eq_false_iff.mpr carried', Bool.false_and]
  exact ⟨List.filterMap_eq_nil_iff.mpr fun packet member => (each packet member).1,
    List.countP_eq_zero.mpr fun packet member => Bool.eq_false_iff.mp (each packet member).2⟩

theorem settles_of_message (taken : List V5.IncomingPacket) (spoken : c.Spoken limits queue talks)
    (queued : queue side.other = taken ++ rest) {session : Session} {lines : Side → Line} {active : Conversation}
    (wired : Wired { c with lines } limits (answered queue side rest replies))
    (received : Received (c.users side) session) (settles : (talks side.other).Settles active)
    (publisher : active.publisher = (talks side.other).publisher) (subscriber : active.subscriber = session)
    (forward : active.forward.map .unnumbered = rest.filterMap carried)
    (backward : active.backward = (talks side.other).backward ++ replies.filterMap reply)
    (carries : ∀ each ∈ taken, (carried each).isSome) (answers : ∀ each ∈ replies, (reply each).isSome) :
    c.Settles limits queue talks (c.after side session lines (taken.filterMap message)) := by
  obtain ⟨noForward, noMessage, notPlain⟩ := silent_of_reply answers
  obtain ⟨noReply, notPlainTaken⟩ := unanswered_of_carried carries
  refine ⟨rfl, _, both side { talks side with publisher := { c.users side with session } } active, ⟨wired.congr rfl, ?_⟩, ?_⟩
  · apply spoken.change (d := c.after side session lines (taken.filterMap message)) rfl spoken.matched
      received.capabilities
    · refine (spoken.carries side).publisher_aside received.balanced received.same ?_ ?_ ?_ ?_
      · simp
      · simp
      · simp [noForward]
      · simp [queued, noReply]
    · refine ⟨?_, ?_, ?_, ?_, settles.steady⟩
      · simp [publisher, (spoken.carries side.other).publisher]
      · simp [subscriber]
      · simpa using forward
      · simp [backward, (spoken.carries side.other).backward]
    · intro each
      have before := spoken.inOrder each
      rcases each.eq_or_other side with rfl | rfl
      · simpa [noMessage] using before
      · rw [queued] at before
        simpa using before
  · have less := settles.work
    have own : Conversation.work { talks side with publisher := { c.users side with session } } = (talks side).work := rfl
    rw [work_eq _ _ side, work_eq _ _ side]
    simp only [sideWork, both_self, both_other, answered_self, answered_other, queued, List.countP_append, notPlain,
      notPlainTaken, own]
    omega

theorem silent_of_release (releases : ∀ each ∈ replies, ∃ packet, each = .pubRel packet) :
    replies.filterMap reply = [] ∧ replies.filterMap message = [] ∧ replies.countP plain = 0 := by
  have each (packet : V5.IncomingPacket) (member : packet ∈ replies) :
      reply packet = none ∧ message packet = none ∧ plain packet = false := by
    obtain ⟨release, rfl⟩ := releases packet member
    exact ⟨rfl, rfl, rfl⟩
  exact ⟨List.filterMap_eq_nil_iff.mpr fun packet member => (each packet member).1,
    List.filterMap_eq_nil_iff.mpr fun packet member => (each packet member).2.1,
    List.countP_eq_zero.mpr fun packet member => Bool.eq_false_iff.mp (each packet member).2.2⟩

theorem settles_of_reply (spoken : c.Spoken limits queue talks) (queued : queue side.other = packet :: rest)
    {session : Session} {lines : Side → Line} {active : Conversation} {released : List PublisherPacket}
    (wired : Wired { c with lines } limits (answered queue side rest replies))
    (capabilities : session.serverCapabilities = (c.session side).serverCapabilities)
    (same : Session.SameReceiving (c.session side) session) (settles : (talks side).Settles active)
    (publisher : active.publisher = { c.users side with session })
    (subscriber : active.subscriber = (talks side).subscriber)
    (forward : active.forward = (talks side).forward ++ released)
    (release : released.map .unnumbered = replies.filterMap carried) (backward : active.backward = rest.filterMap reply)
    (answers : (reply packet).isSome) (releases : ∀ each ∈ replies, ∃ packet, each = .pubRel packet) :
    c.Settles limits queue talks (c.after side session lines []) := by
  obtain ⟨noReply, noMessage, notPlain⟩ := silent_of_release releases
  have ⟨noForward, unpublished, notPlainHead⟩ :
      carried packet = none ∧ message packet = none ∧ plain packet = false := by
    cases packet <;> first | exact ⟨rfl, rfl, rfl⟩ | cases answers
  refine ⟨rfl, _, both side active { talks side.other with subscriber := session }, ⟨wired.congr rfl, ?_⟩, ?_⟩
  · apply spoken.change (d := c.after side session lines []) rfl spoken.matched capabilities
    · refine ⟨?_, ?_, ?_, ?_, settles.steady⟩
      · simp [publisher]
      · simp [subscriber, (spoken.carries side).subscriber]
      · simp [forward, (spoken.carries side).forward, release]
      · simpa using backward
    · have users : (c.after side session lines []).users =
          Function.update c.users side { c.users side with session } := rfl
      exact spoken.subscribing_aside users same (by simp [queued, noForward]) (by simp [noReply])
    · intro each
      have before := spoken.inOrder each
      rcases each.eq_or_other side with rfl | rfl
      · simpa [noMessage] using before
      · rw [queued] at before
        simpa [unpublished] using before
  · have less := settles.work
    have other : Conversation.work { talks side.other with subscriber := session } = (talks side.other).work := by
      have subscriber := (spoken.carries side.other).subscriber
      rw [Side.other_other] at subscriber
      simp only [Conversation.work, subscriber, same.incoming]
    rw [work_eq _ _ side, work_eq _ _ side]
    simp only [sideWork, both_self, both_other, answered_self, answered_other, queued, List.countP_append, notPlain,
      List.countP_cons, notPlainHead, Bool.false_eq_true, ↓reduceIte, other]
    omega

end Connection

end MqttRs
