import MqttRs.Connection.Wiring
import MqttRs.State.Conversation.Safety

namespace MqttRs

def PublisherPacket.unnumbered : PublisherPacket → PublisherPacket
  | .publish qos id _ => .publish qos id 0
  | .pubrel id => .pubrel id

namespace V5.IncomingPacket

def carried : IncomingPacket → Option PublisherPacket
  | .publish packet => packet.packetId.map fun id => .publish packet.qos id 0
  | .pubRel packet => some (.pubrel packet.packetId)
  | _ => none

def reply : IncomingPacket → Option SubscriberPacket
  | .pubAck packet => some (.puback packet.packetId)
  | .pubRec packet => some (.pubrec packet.packetId (ByteCode.asU8 packet.reasonCode))
  | .pubComp packet => some (.pubcomp packet.packetId)
  | _ => none

def message : IncomingPacket → Option Publish
  | .publish packet => some packet
  | _ => none

end V5.IncomingPacket

namespace Connection

open V5.IncomingPacket (carried reply message)

variable {c d : Connection} {limits : Side → Limits} {queue : Side → List V5.IncomingPacket}
  {talks : Side → Conversation} {side : Side} {talk : Conversation}

/-- The conversation in which one side publishes, as the connection carries it. -/
structure Carries (c : Connection) (queue : Side → List V5.IncomingPacket) (side : Side) (talk : Conversation) :
    Prop where
  publisher : talk.publisher = c.users side
  subscriber : talk.subscriber = c.session side.other
  forward : talk.forward.map .unnumbered = (queue side).filterMap carried
  backward : talk.backward = (queue side.other).filterMap reply
  steady : talk.Steady

/-- A side sends no packet that the decoder of the other side refuses for its size. -/
def Announced (s : Session) (limits : Limits) : Prop :=
  6 ≤ limits.maxPacketSize ∧ ∃ size ∈ s.serverCapabilities.maximumPacketSize, size.toNat ≤ limits.maxPacketSize

/-- Both sides talk as two sessions do, and messages arrive in the order in which they are published. -/
structure Spoken (c : Connection) (limits : Side → Limits) (queue : Side → List V5.IncomingPacket)
    (talks : Side → Conversation) : Prop where
  matched : c.failed = false
  announced : ∀ side, Announced (c.session side) (limits side)
  carries : ∀ side, c.Carries queue side (talks side)
  inOrder : ∀ side, c.accepted side ++ (queue side).filterMap message = c.published side

section Aside

variable {other : Side → List V5.IncomingPacket} {user : PacketIdUser}

theorem Carries.publisher_aside (carries : c.Carries queue side talk) (balanced : user.Balanced)
    (same : Session.SameSending (c.session side) user.session) (users : d.users side = user)
    (subscriber : d.session side.other = c.session side.other)
    (forward : (other side).filterMap carried = (queue side).filterMap carried)
    (backward : (other side.other).filterMap reply = (queue side.other).filterMap reply) :
    d.Carries other side { talk with publisher := user } where
  publisher := users.symm
  subscriber := carries.subscriber.trans subscriber.symm
  forward := carries.forward.trans forward.symm
  backward := carries.backward.trans backward.symm
  steady := by
    rw [session, ← carries.publisher] at same
    exact Conversation.publisher_steady carries.steady balanced same

theorem Carries.subscriber_aside (carries : c.Carries queue side talk) {subscriber : Session}
    (same : Session.SameReceiving (c.session side.other) subscriber) (users : d.users side = c.users side)
    (session : d.session side.other = subscriber)
    (forward : (other side).filterMap carried = (queue side).filterMap carried)
    (backward : (other side.other).filterMap reply = (queue side.other).filterMap reply) :
    d.Carries other side { talk with subscriber } where
  publisher := carries.publisher.trans users.symm
  subscriber := session.symm
  forward := carries.forward.trans forward.symm
  backward := carries.backward.trans backward.symm
  steady := by
    rw [← carries.subscriber] at same
    exact Conversation.subscriber_steady carries.steady same

end Aside

section Answers

variable {id : UInt16} {message : Nat} {sent : List PublisherPacket} {replied : List SubscriberPacket}

theorem handlePublishQos2_queued (steady : talk.Steady) (queued : talk.forward = .publish .exactlyOnce id message :: sent) :
    (talk.subscriber.handlePublishQos2 id).1 = .ok (.sendPubrec id false) := by
  obtain ⟨-, known⟩ := Conversation.view_of_publish steady queued
  have closed : talk.subscriber.qosFlow.incoming.get? id = none := congrArg Conversation.View.receiving known
  obtain ⟨t, counted, same, -⟩ :=
    Conversation.counted_of_publish steady (congrArg Conversation.View.sending known) closed
  rw [Subscriber.handlePublishQos2_counted counted, same, OrderedMap.contains_false_iff.mpr closed]

theorem handlePublishQos1_queued (steady : talk.Steady) (queued : talk.forward = .publish .atLeastOnce id message :: sent) :
    (talk.subscriber.handlePublishQos1 id).1 = .ok (.sendPuback id) := by
  obtain ⟨-, known⟩ := Conversation.view_of_publish steady queued
  obtain ⟨t, counted, -⟩ := Conversation.counted_of_publish steady (congrArg Conversation.View.sending known)
    (congrArg Conversation.View.receiving known)
  rw [Subscriber.handlePublishQos1_counted counted]

theorem handlePubrel_queued (steady : talk.Steady) (queued : talk.forward = .pubrel id :: sent) :
    (talk.subscriber.handlePubrel id).1 = .ok (some (.sendPubcomp id)) := by
  obtain ⟨message, known⟩ := Conversation.view_of_pubrel steady queued
  rw [Session.handlePubrel, QosFlowManager.pubrelReceived_finished (congrArg Conversation.View.receiving known)]

theorem handlePuback_queued (steady : talk.Steady) (queued : talk.backward = .puback id :: replied) :
    (talk.publisher.session.handlePuback id).1 = .ok (some (.complete id)) := by
  obtain ⟨message, known⟩ := Conversation.view_of_puback steady queued
  obtain ⟨flow, present, waiting⟩ := Option.map_eq_some_iff.mp (congrArg Conversation.View.sending known)
  rw [Session.handlePuback_finished present waiting]

theorem handlePubcomp_queued (steady : talk.Steady) (queued : talk.backward = .pubcomp id :: replied) :
    (talk.publisher.session.handlePubcomp id).1 = .ok (some (.complete id)) := by
  obtain ⟨message, known⟩ := Conversation.view_of_pubcomp steady queued
  obtain ⟨flow, present, waiting⟩ := Option.map_eq_some_iff.mp (congrArg Conversation.View.sending known)
  rw [Session.handlePubcomp_finished present waiting]

theorem handlePubrec_queued {reasonCode : UInt8} (steady : talk.Steady)
    (queued : talk.backward = .pubrec id reasonCode :: replied) :
    (talk.publisher.session.handlePubrec id reasonCode).1 = .ok (some (.sendPubrel id)) := by
  obtain ⟨success, message, known⟩ := Conversation.view_of_pubrec steady queued
  obtain ⟨flow, present, waiting⟩ := Option.map_eq_some_iff.mp (congrArg Conversation.View.sending known)
  rw [Session.handlePubrec_advanced success present waiting]

end Answers

section Change

variable {changed : Side → List V5.IncomingPacket} {user : PacketIdUser} {publishing subscribing : Conversation}

def plain (packet : V5.IncomingPacket) : Bool := (carried packet).isNone && (reply packet).isNone

def sideWork (queue : Side → List V5.IncomingPacket) (talks : Side → Conversation) (side : Side) : Nat :=
  (talks side).work + (queue side).countP plain

def work (queue : Side → List V5.IncomingPacket) (talks : Side → Conversation) : Nat :=
  sideWork queue talks .near + sideWork queue talks .far

theorem work_eq (queue : Side → List V5.IncomingPacket) (talks : Side → Conversation) (side : Side) :
    work queue talks = sideWork queue talks side + sideWork queue talks side.other := by
  cases side with
  | near => rfl
  | far => exact Nat.add_comm _ _

/-- The conversations after the user of one side acts: the one in which it publishes and the other one. -/
def both (side : Side) (publishing subscribing : Conversation) : Side → Conversation :=
  Function.update (fun _ => subscribing) side publishing

@[simp] theorem both_self (side : Side) : both side publishing subscribing side = publishing := by
  simp [both]

@[simp] theorem both_other (side : Side) : both side publishing subscribing side.other = subscribing := by
  simp [both]

theorem Spoken.change (spoken : c.Spoken limits queue talks) (users : d.users = Function.update c.users side user)
    (matched : d.failed = false)
    (capabilities : user.session.serverCapabilities = (c.session side).serverCapabilities)
    (publishes : d.Carries changed side publishing) (subscribes : d.Carries changed side.other subscribing)
    (inOrder : ∀ side, d.accepted side ++ (changed side).filterMap message = d.published side) :
    d.Spoken limits changed (both side publishing subscribing) where
  matched := matched
  announced each := by
    have before := spoken.announced each
    rcases each.eq_or_other side with rfl | rfl
    · simpa [Announced, session, users, capabilities] using before
    · simpa [Announced, session, users] using before
  carries each := by
    rcases each.eq_or_other side with rfl | rfl
    · simpa using publishes
    · simpa using subscribes
  inOrder := inOrder

theorem Spoken.subscribing_aside (spoken : c.Spoken limits queue talks)
    (users : d.users = Function.update c.users side user)
    (same : Session.SameReceiving (c.session side) user.session)
    (forward : (changed side.other).filterMap carried = (queue side.other).filterMap carried)
    (backward : (changed side).filterMap reply = (queue side).filterMap reply) :
    d.Carries changed side.other { talks side.other with subscriber := user.session } := by
  apply (spoken.carries side.other).subscriber_aside
  · rwa [Side.other_other]
  · simp [users]
  · simp [session, users]
  · exact forward
  · rwa [Side.other_other]

end Change

end Connection

end MqttRs
