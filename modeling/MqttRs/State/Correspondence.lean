import MqttRs.State.Conversation
import MqttRs.State.QuotaLeak
import MqttRs.State.Reconnect

/-! Two sessions that outlive their connections, one of them publishing to the other. -/

namespace MqttRs

def Session.resumed (s : Session) (settings : ConnectSettings) (params : ConnackParams) : Option Session :=
  match s.configureWith settings with
  | (.ok (), configured) =>
    match configured.connectSent.applyConnack params with
    | (.ok (), session) => if params.sessionPresent then some session else none
    | _ => none
  | _ => none

def PacketIdUser.resumed (u : PacketIdUser) (settings : ConnectSettings) (params : ConnackParams) : Option PacketIdUser :=
  (u.session.resumed settings params).map fun session => { u with session }

/-- A conversation that goes on over one connection after another. -/
structure Correspondence extends Conversation where
  -- the QoS of each message
  levels : Nat → QoS
  -- messages of QoS 1 that came over this connection, with the PUBACK still to be sent
  owed : List UInt16
  -- what is left of the retransmissions of this connection
  resends : List (UInt16 × Action)

inductive CorrespondenceOp where
  | converse (op : ConversationOp)
  | resend
  | reconnect (settings : ConnectSettings) (params : ConnackParams) (subscriberSettings : ConnectSettings)
      (subscriberParams : ConnackParams)

/-- The steps that only carry on what was published. -/
def CorrespondenceOp.settles : CorrespondenceOp → Bool
  | .converse op => op.settles
  | .resend => true
  | .reconnect _ _ _ _ => false

namespace Correspondence

def start (publisher : PacketIdUser) (subscriber : Session) : Correspondence where
  toConversation := .start publisher subscriber
  levels := fun _ => .atMostOnce
  owed := []
  resends := []

def permits (c : Correspondence) : ConversationOp → Bool
  | .acknowledge packetId => !c.failed && c.owed.contains packetId
  | .subscriberCalls op => !c.failed && Session.keepsSending op
  | _ => !c.failed

/-- The messages whose PUBACK is owed after a step. -/
def owedAfter (c : Correspondence) : ConversationOp → List UInt16
  | .subscriberTakes _ =>
    match c.forward with
    | .publish .atLeastOnce packetId _ :: _ => packetId :: c.owed
    | _ => c.owed
  | .acknowledge packetId => c.owed.erase packetId
  | _ => c.owed

def levelsAfter (c : Correspondence) : ConversationOp → Nat → QoS
  | .publish qos _ => Function.update c.levels c.published qos
  | _ => c.levels

def conversed (c : Correspondence) (op : ConversationOp) (conversation : Conversation) : Correspondence :=
  { c with toConversation := conversation, levels := c.levelsAfter op, owed := c.owedAfter op }

def resend (c : Correspondence) : Option Correspondence :=
  match c.resends with
  | (id, .resendPublish _) :: rest =>
    match c.publisher.session.resendPublish id with
    | (.ok (some _), session) =>
      some { c with
        publisher := { c.publisher with session }
        forward := c.forward ++ [.publish (c.levels (c.messages id)) id (c.messages id)]
        resends := rest }
    | (.ok none, _) => some { c with resends := rest }
    | (.error _, _) => none
  | (id, .resendPubrel _) :: rest =>
    match c.publisher.session.resendPubrel id with
    | some _ => some { c with forward := c.forward ++ [.pubrel id], resends := rest }
    | none => some { c with resends := rest }
  | _ => none

def reconnected (c : Correspondence) (publisher : PacketIdUser) (subscriber : Session) : Correspondence :=
  { c with
    publisher
    subscriber
    forward := []
    backward := []
    failed := false
    owed := []
    resends := publisher.session.pendingRetransmissions }

def next (c : Correspondence) : CorrespondenceOp → Option Correspondence
  | .converse op =>
    if c.permits op then (c.toConversation.next op).map (c.conversed op) else none
  | .resend => if c.failed then none else c.resend
  | .reconnect settings params subscriberSettings subscriberParams =>
    match c.publisher.resumed settings params, c.subscriber.resumed subscriberSettings subscriberParams with
    | some publisher, some subscriber => some (c.reconnected publisher subscriber)
    | _, _ => none

structure Unused (publisher : PacketIdUser) (subscriber : Session) : Prop where
  balanced : publisher.Balanced
  backed : publisher.session.QuotaBacked
  sendsNothing : publisher.session.qosFlow.outgoing = .empty
  receivesNothing : subscriber.qosFlow.incoming = .empty
  nothingReceived : subscriber.flowControl.incomingCount = 0
  silent : subscriber.qosFlow.outgoing = .empty

/-- What a connection leaves behind of the exchange under one identifier. -/
structure Exchange where
  message : Nat
  level : Option QoS
  accepted : Bool
  sending : Option FlowState
  receiving : Option FlowState

/-- What a connection still carries for it: packets, a PUBACK that is owed, a retransmission. -/
structure Traffic where
  forward : List PublisherPacket
  backward : List SubscriberPacket
  owed : List UInt16
  resends : List (UInt16 × Action)

def exchange (c : Correspondence) (id : UInt16) : Exchange where
  message := c.messages id
  level := (c.sending id).map fun _ => c.levels (c.messages id)
  accepted := (c.sending id).isSome && decide (c.messages id ∈ c.accepted)
  sending := c.sending id
  receiving := c.subscriber.qosFlow.incoming.get? id

def traffic (c : Correspondence) (id : UInt16) : Traffic where
  forward := c.forward.filter fun packet => packet.packetId = id
  backward := c.backward.filter fun packet => packet.packetId = id
  owed := c.owed.filter fun other => other = id
  resends := c.resends.filter fun entry => entry.1 = id

/-- What the loss of a connection can leave: a message that was not taken, one of QoS 1 that was taken and perhaps
    acknowledged, one of QoS 2 that is stored, or one that is released, perhaps on both sides. -/
inductive Standing : Exchange → Prop
  | idle (message : Nat) : Standing ⟨message, none, false, none, none⟩
  | published (message : Nat) (qos : QoS) (real : qos ≠ .atMostOnce) :
    Standing ⟨message, some qos, false, some (Session.openingState qos), none⟩
  | taken (message : Nat) (receiving : Option FlowState)
      (kept : ∀ state ∈ receiving, state = .incomingAwaitingPuback) :
    Standing ⟨message, some .atLeastOnce, true, some .awaitingPuback, receiving⟩
  | stored (message : Nat) :
    Standing ⟨message, some .exactlyOnce, true, some .awaitingPubrec, some .awaitingPubrel⟩
  | released (message : Nat) (receiving : Option FlowState) (kept : ∀ state ∈ receiving, state = .awaitingPubrel) :
    Standing ⟨message, some .exactlyOnce, true, some .awaitingPubcomp, receiving⟩

def Exchange.asks (e : Exchange) (id : UInt16) : Option Action :=
  match e.sending with
  | some .awaitingPuback | some .awaitingPubrec => some (.resendPublish id)
  | some .awaitingPubcomp => some (.resendPubrel id)
  | _ => none

/-- The stages of an exchange on one connection. In each one a single step leads on. -/
inductive Stage (id : UInt16) : Exchange → Traffic → Prop
  | idle (message : Nat) : Stage id ⟨message, none, false, none, none⟩ ⟨[], [], [], []⟩
  | lost (e : Exchange) (standing : Standing e) (action : Action) (asks : e.asks id = some action) :
    Stage id e ⟨[], [], [], [(id, action)]⟩
  | publishing (e : Exchange) (standing : Standing e) (qos : QoS) (level : e.level = some qos)
      (waits : e.sending = some (Session.openingState qos)) :
    Stage id e ⟨[.publish qos id e.message], [], [], []⟩
  | received (message : Nat) :
    Stage id ⟨message, some .atLeastOnce, true, some .awaitingPuback, some .incomingAwaitingPuback⟩ ⟨[], [], [id], []⟩
  | acknowledged (message : Nat) :
    Stage id ⟨message, some .atLeastOnce, true, some .awaitingPuback, none⟩ ⟨[], [.puback id], [], []⟩
  | stored (message : Nat) (reasonCode : UInt8) (success : ¬0x80 ≤ reasonCode) :
    Stage id ⟨message, some .exactlyOnce, true, some .awaitingPubrec, some .awaitingPubrel⟩
      ⟨[], [.pubrec id reasonCode], [], []⟩
  | releasing (message : Nat) (receiving : Option FlowState) (kept : ∀ state ∈ receiving, state = .awaitingPubrel) :
    Stage id ⟨message, some .exactlyOnce, true, some .awaitingPubcomp, receiving⟩ ⟨[.pubrel id], [], [], []⟩
  | released (message : Nat) :
    Stage id ⟨message, some .exactlyOnce, true, some .awaitingPubcomp, none⟩ ⟨[], [.pubcomp id], [], []⟩

def delivery (c : Correspondence) : Delivery UInt16 where
  inProgress := fun id => (c.sending id).map fun _ => c.messages id
  published := c.published
  accepted := c.accepted.eraseDups
  completed := c.completed

structure Lasting (c : Correspondence) : Prop where
  balanced : c.publisher.Balanced
  backed : c.publisher.session.QuotaBacked
  silent : c.subscriber.qosFlow.outgoing = .empty
  standing : ∀ id, Standing (c.exchange id)
  sound : c.delivery.Sound
  once : ∀ message, c.levels message = .exactlyOnce → c.accepted.count message ≤ 1

/-- Every exchange is in one of its stages, what is to be sent again is not counted yet, and the receive quota
    counts no more than the open flows. -/
structure Steady (c : Correspondence) : Prop extends Lasting c where
  matched : c.failed = false
  stages : ∀ id, Stage id (c.exchange id) (c.traffic id)
  uncharged : ∀ entry ∈ c.resends, c.publisher.session.qosFlow.isQuotaCharged entry.1 = false
  counted : c.incomingCount ≤ c.subscriber.qosFlow.incoming.size

def resendWork : Action → Nat
  | .resendPublish _ => 5
  | .resendPubrel _ => 3
  | _ => 1

def work (c : Correspondence) : Nat :=
  (c.forward.map PublisherPacket.work).sum + (c.backward.map SubscriberPacket.work).sum + 2 * c.owed.length +
    (c.resends.map fun entry => resendWork entry.2).sum

/-- A connection ends with a refusal only when more messages are unfinished than the subscriber takes at once. -/
inductive Sound (c : Correspondence) : Prop
  | steady (steady : c.Steady)
  | refused (failed : c.failed = true) (lasting : c.Lasting) (beyond : c.ownReceiveMaximum < c.outgoingCount)

structure Settles (c d : Correspondence) : Prop where
  sound : d.Sound
  work : d.work < c.work

end Correspondence

end MqttRs
