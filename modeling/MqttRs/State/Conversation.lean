import Mathlib.Algebra.GroupWithZero.Nat
import MqttRs.Library.Delivery
import MqttRs.State.PacketIdOwnership
import MqttRs.State.SendQuota
import MqttRs.State.Session.Frame

namespace MqttRs

/-- Packets of the publishing side. A PUBLISH carries the number of its message. -/
inductive PublisherPacket where
  | publish (qos : QoS) (packetId : UInt16) (message : Nat)
  | pubrel (packetId : UInt16)
  deriving DecidableEq

inductive SubscriberPacket where
  | puback (packetId : UInt16)
  | pubrec (packetId : UInt16) (reasonCode : UInt8)
  | pubcomp (packetId : UInt16)
  deriving DecidableEq

def PublisherPacket.packetId : PublisherPacket → UInt16
  | .publish _ id _ | .pubrel id => id

def SubscriberPacket.packetId : SubscriberPacket → UInt16
  | .puback id | .pubrec id _ | .pubcomp id => id

def PublisherPacket.work : PublisherPacket → Nat
  | .publish qos _ _ => if qos = .exactlyOnce then 4 else 3
  | .pubrel _ => 2

def SubscriberPacket.work : SubscriberPacket → Nat
  | .pubrec _ _ => 3
  | .puback _ | .pubcomp _ => 1

theorem PublisherPacket.work_ne_zero (packet : PublisherPacket) : packet.work ≠ 0 := by
  cases packet with
  | publish qos => cases qos <;> exact Nat.succ_ne_zero _
  | pubrel => exact Nat.succ_ne_zero _

theorem SubscriberPacket.work_ne_zero (packet : SubscriberPacket) : packet.work ≠ 0 := by
  cases packet <;> exact Nat.succ_ne_zero _

@[simp] theorem PublisherPacket.packetId_publish (qos : QoS) (id : UInt16) (message : Nat) :
    (publish qos id message).packetId = id := rfl

@[simp] theorem PublisherPacket.packetId_pubrel (id : UInt16) : (pubrel id).packetId = id := rfl

@[simp] theorem SubscriberPacket.packetId_puback (id : UInt16) : (puback id).packetId = id := rfl

@[simp] theorem SubscriberPacket.packetId_pubrec (id : UInt16) (reasonCode : UInt8) :
    (pubrec id reasonCode).packetId = id := rfl

@[simp] theorem SubscriberPacket.packetId_pubcomp (id : UInt16) : (pubcomp id).packetId = id := rfl

/-- Two sessions on one connection, one publishing to the other, with the packets on their way. -/
structure Conversation where
  publisher : PacketIdUser
  subscriber : Session
  forward : List PublisherPacket
  backward : List SubscriberPacket
  messages : UInt16 → Nat
  published : Nat
  accepted : List Nat
  completed : List Nat
  -- a call for a packet of the other side has returned an error
  failed : Bool

inductive ConversationOp where
  | publish (qos : QoS) (packetId : UInt16)
  | subscriberTakes (reasonCode : UInt8)
  | acknowledge (packetId : UInt16)
  | publisherTakes
  | publisherCalls (op : SessionOp)
  | subscriberCalls (op : SessionOp)

def ConversationOp.settles : ConversationOp → Bool
  | .subscriberTakes _ | .acknowledge _ | .publisherTakes => true
  | _ => false

namespace Conversation

def start (publisher : PacketIdUser) (subscriber : Session) : Conversation where
  publisher := publisher
  subscriber := subscriber
  forward := []
  backward := []
  messages := fun _ => 0
  published := 0
  accepted := []
  completed := []
  failed := false

def publish (c : Conversation) (qos : QoS) (packetId : UInt16) (publisher : PacketIdUser) : Conversation :=
  if (c.publisher.session.publishSent qos packetId).1 = .ok () then
    { c with
      publisher
      forward := c.forward ++ [.publish qos packetId c.published]
      messages := Function.update c.messages packetId c.published
      published := c.published + 1 }
  else { c with publisher }

-- A PUBLISH of QoS 1 is acknowledged when its application has dealt with it, one of QoS 2 at once.
def receivePublish (c : Conversation) (qos : QoS) (packetId : UInt16) (message : Nat) (reasonCode : UInt8) :
    Conversation :=
  if qos = .exactlyOnce then
    match c.subscriber.handlePublishQos2 packetId with
    | (.ok (.sendPubrec id isDuplicate), subscriber) =>
      { c with
        subscriber := subscriber.pubrecSent reasonCode
        backward := c.backward ++ [.pubrec id reasonCode]
        accepted := if isDuplicate then c.accepted else c.accepted ++ [message] }
    | (_, subscriber) => { c with subscriber, failed := true }
  else
    match c.subscriber.handlePublishQos1 packetId with
    | (.ok (.sendPuback _), subscriber) => { c with subscriber, accepted := c.accepted ++ [message] }
    | (_, subscriber) => { c with subscriber, failed := true }

def receivePubrel (c : Conversation) (packetId : UInt16) : Conversation :=
  match c.subscriber.handlePubrel packetId with
  | (.ok (some (.sendPubcomp id)), subscriber) =>
    { c with subscriber := subscriber.pubcompSent, backward := c.backward ++ [.pubcomp id] }
  | (.ok (some (.resendPubcomp id)), subscriber) => { c with subscriber, backward := c.backward ++ [.pubcomp id] }
  | (.ok _, subscriber) => { c with subscriber }
  | (.error _, subscriber) => { c with subscriber, failed := true }

def answered (c : Conversation) (result : Except FlowError (Option Action)) (publisher : PacketIdUser) : Conversation :=
  match result with
  | .ok (some (.complete id)) => { c with publisher, completed := c.completed ++ [c.messages id] }
  | .ok (some (.sendPubrel id)) => { c with publisher, forward := c.forward ++ [.pubrel id] }
  | .ok _ => { c with publisher }
  | .error _ => { c with publisher, failed := true }

def receipt : SubscriberPacket → SessionOp
  | .puback id => .handlePuback id
  | .pubrec id reasonCode => .handlePubrec id reasonCode
  | .pubcomp id => .handlePubcomp id

def result (s : Session) : SubscriberPacket → Except FlowError (Option Action)
  | .puback id => (s.handlePuback id).1
  | .pubrec id reasonCode => (s.handlePubrec id reasonCode).1
  | .pubcomp id => (s.handlePubcomp id).1

def next (c : Conversation) : ConversationOp → Option Conversation
  | .publish qos packetId => (c.publisher.next (.publishSent qos packetId)).map (c.publish qos packetId)
  | .subscriberTakes reasonCode =>
    if 0x80 ≤ reasonCode then none
    else match c.forward with
      | [] => none
      | .publish qos id message :: rest => some ({ c with forward := rest }.receivePublish qos id message reasonCode)
      | .pubrel id :: rest => some ({ c with forward := rest }.receivePubrel id)
  | .acknowledge packetId =>
    if c.subscriber.qosFlow.incoming.get? packetId = some .incomingAwaitingPuback then
      some { c with
        subscriber := c.subscriber.pubackSent packetId
        backward := c.backward ++ [.puback packetId] }
    else none
  | .publisherTakes =>
    match c.backward with
    | [] => none
    | packet :: rest =>
      (c.publisher.next (receipt packet)).map ({ c with backward := rest }.answered (result c.publisher.session packet))
  | .publisherCalls op =>
    if Session.keepsSending op then (c.publisher.next op).map fun publisher => { c with publisher } else none
  | .subscriberCalls op =>
    if Session.keepsReceiving op then some { c with subscriber := c.subscriber.perform op } else none

/-- Both sides start the connection without flows, and the publisher keeps to the subscriber's Receive Maximum. -/
structure Paired (publisher : PacketIdUser) (subscriber : Session) : Prop where
  balanced : publisher.Balanced
  sendsNothing : publisher.session.qosFlow.outgoing = .empty
  nothingSent : publisher.session.outstanding = 0
  receivesNothing : subscriber.qosFlow.incoming = .empty
  nothingReceived : subscriber.flowControl.incomingCount = 0
  limit : publisher.session.flowControl.receiveMaximum ≤ subscriber.flowControl.ownReceiveMaximum

def sending (c : Conversation) (id : UInt16) : Option FlowState :=
  (c.publisher.session.qosFlow.outgoing.get? id).map OutgoingFlow.state

/-- What there is of the exchange under one identifier: the flow on each side and the packets on their way. -/
structure View where
  message : Nat
  accepted : Bool
  sending : Option FlowState
  receiving : Option FlowState
  forward : List PublisherPacket
  backward : List SubscriberPacket

def view (c : Conversation) (id : UInt16) : View where
  message := c.messages id
  accepted := (c.sending id).isSome && decide (c.messages id ∈ c.accepted)
  sending := c.sending id
  receiving := c.subscriber.qosFlow.incoming.get? id
  forward := c.forward.filter fun packet => packet.packetId = id
  backward := c.backward.filter fun packet => packet.packetId = id

/-- The stages of an exchange. In each one a single step leads on: at most one packet is on its way. -/
inductive Stage (id : UInt16) : View → Prop
  | idle (message : Nat) : Stage id ⟨message, false, none, none, [], []⟩
  | published (message : Nat) (qos : QoS) (real : qos ≠ .atMostOnce) :
    Stage id ⟨message, false, some (Session.openingState qos), none, [.publish qos id message], []⟩
  | received (message : Nat) :
    Stage id ⟨message, true, some .awaitingPuback, some .incomingAwaitingPuback, [], []⟩
  | acknowledged (message : Nat) : Stage id ⟨message, true, some .awaitingPuback, none, [], [.puback id]⟩
  | stored (message : Nat) (reasonCode : UInt8) (success : ¬0x80 ≤ reasonCode) :
    Stage id ⟨message, true, some .awaitingPubrec, some .awaitingPubrel, [], [.pubrec id reasonCode]⟩
  | releasing (message : Nat) :
    Stage id ⟨message, true, some .awaitingPubcomp, some .awaitingPubrel, [.pubrel id], []⟩
  | released (message : Nat) : Stage id ⟨message, true, some .awaitingPubcomp, none, [], [.pubcomp id]⟩

def delivery (c : Conversation) : Delivery UInt16 where
  inProgress := fun id => (c.sending id).map fun _ => c.messages id
  published := c.published
  accepted := c.accepted
  completed := c.completed

def outgoingCount (c : Conversation) : Nat := c.publisher.session.qosFlow.outgoing.size

def incomingCount (c : Conversation) : Nat := c.subscriber.flowControl.incomingCount.toNat

def ownReceiveMaximum (c : Conversation) : Nat := c.subscriber.flowControl.ownReceiveMaximum.toNat

def unacknowledged (state : FlowState) : Bool := state = .incomingAwaitingPuback

def work (c : Conversation) : Nat :=
  (c.forward.map PublisherPacket.work).sum + (c.backward.map SubscriberPacket.work).sum +
    2 * c.subscriber.qosFlow.incoming.count unacknowledged

/-- Every exchange is in one of its stages, and both quotas count the open flows. -/
structure Steady (c : Conversation) : Prop where
  matched : c.failed = false
  balanced : c.publisher.Balanced
  stages : ∀ id, Stage id (c.view id)
  sent : c.publisher.session.outstanding = c.outgoingCount
  within : c.outgoingCount ≤ c.publisher.session.sendLimit
  limit : c.publisher.session.sendLimit ≤ c.ownReceiveMaximum
  received : c.incomingCount = c.subscriber.qosFlow.incoming.size
  sound : c.delivery.Sound

/-- A step that takes an exchange forward. -/
structure Settles (c d : Conversation) : Prop where
  steady : d.Steady
  work : d.work + 1 = c.work

variable {c d : Conversation} {id : UInt16} {publisher : PacketIdUser} {subscriber : Session}

theorem start_steady (paired : Paired publisher subscriber) : (start publisher subscriber).Steady where
  matched := rfl
  balanced := paired.balanced
  stages id := by
    have idle : (start publisher subscriber).view id = ⟨0, false, none, none, [], []⟩ := by
      simp [view, sending, start, paired.sendsNothing, paired.receivesNothing]
    rw [idle]
    exact .idle 0
  sent := by simp [outgoingCount, start, paired.sendsNothing, paired.nothingSent]
  within := by simp [outgoingCount, start, paired.sendsNothing]
  limit := UInt16.le_iff_toNat_le.mp paired.limit
  received := by simp [incomingCount, start, paired.receivesNothing, paired.nothingReceived]
  sound := by
    have empty : (start publisher subscriber).delivery = .empty := by
      simp [delivery, sending, start, paired.sendsNothing, Delivery.empty]
    rw [empty]
    exact Delivery.empty_sound

end Conversation

end MqttRs
