import MqttRs.Decoder.Line
import MqttRs.State.Conversation

/-! Two sessions at the ends of one connection, each of them publishing to the other, down to the bytes on their way. -/

namespace MqttRs

inductive Side where
  | near
  | far
  deriving DecidableEq

namespace Side

def other : Side → Side
  | near => far
  | far => near

variable {side taker : Side}

@[simp] theorem other_other (side : Side) : side.other.other = side := by
  cases side <;> rfl

@[simp] theorem other_ne (side : Side) : side.other ≠ side := by
  cases side <;> decide

@[simp] theorem ne_other (side : Side) : side ≠ side.other := side.other_ne.symm

theorem eq_or_other (side taker : Side) : side = taker ∨ side = taker.other := by
  cases side <;> cases taker <;> decide

end Side

/-- The sessions at both ends, what is on its way between them, and the messages of each side so far. -/
structure Connection where
  users : Side → PacketIdUser
  -- from one side to the decoder of the other
  lines : Side → Line
  published : Side → List V5.Publish
  -- those that the application of the other side got
  accepted : Side → List V5.Publish
  -- a packet of the other side could not be decoded or was not expected
  failed : Bool

inductive ConnectionOp where
  | publish (side : Side) (packet : V5.Publish)
  | arrive (side : Side) (count : Nat)
  | take (side : Side)
  | acknowledge (side : Side) (packetId : UInt16)
  | call (side : Side) (op : SessionOp)

def ConnectionOp.settles : ConnectionOp → Bool
  | .arrive _ _ | .take _ | .acknowledge _ _ => true
  | _ => false

namespace Connection

def session (c : Connection) (side : Side) : Session := (c.users side).session

def fail (c : Connection) : Connection := { c with failed := true }

def setUser (c : Connection) (side : Side) (user : PacketIdUser) : Connection :=
  { c with users := Function.update c.users side user }

def setSession (c : Connection) (side : Side) (session : Session) : Connection :=
  c.setUser side { c.users side with session }

def setDecoder (c : Connection) (side : Side) (decoder : Decoder) : Connection :=
  { c with lines := Function.update c.lines side.other { c.lines side.other with decoder } }

def sendPacket (c : Connection) (side : Side) (packet : V5.OutgoingPacket) : Connection :=
  match packet.encodeToVec with
  | .ok written => { c with lines := Function.update c.lines side ((c.lines side).write written) }
  | _ => c.fail

def deliver (c : Connection) (side : Side) (packet : V5.Publish) : Connection :=
  { c with accepted := Function.update c.accepted side.other (c.accepted side.other ++ [packet]) }

/-- The PUBACK for a message of QoS 1 follows when its application has dealt with it. -/
def handleIncomingPublish (c : Connection) (side : Side) (packet : V5.Publish) : Connection :=
  match packet.qos, packet.packetId with
  | .atMostOnce, _ => c.deliver side packet
  | .atLeastOnce, some packetId =>
    match (c.session side).handlePublishQos1 packetId with
    | (.ok _, session) => (c.setSession side session).deliver side packet
    | (.error _, session) => (c.setSession side session).fail
  | .exactlyOnce, some packetId =>
    match (c.session side).handlePublishQos2 packetId with
    | (.ok action, session) =>
      let c := c.setSession side session
      let c := c.sendPacket side (.pubRec { packetId, reasonCode := .success, properties := .new })
      let c := c.setSession side ((c.session side).pubrecSent (ByteCode.asU8 V5.PubRecReasonCode.success))
      match action with
      | .sendPubrec _ true => c
      | _ => c.deliver side packet
    | (.error _, session) => (c.setSession side session).fail
  | _, none => c.fail

def handleIncomingPubrel (c : Connection) (side : Side) (packetId : UInt16) : Connection :=
  match (c.session side).handlePubrel packetId with
  | (.ok (some (.sendPubcomp packetId)), session) =>
    let c := c.setSession side session
    let c := c.sendPacket side (.pubComp { packetId, reasonCode := .success, properties := .new })
    c.setSession side (c.session side).pubcompSent
  | (.ok (some (.resendPubcomp packetId)), session) =>
    (c.setSession side session).sendPacket side (.pubComp { packetId, reasonCode := .success, properties := .new })
  | (.ok (some _), session) | (.error _, session) => (c.setSession side session).fail
  | (.ok none, session) => c.setSession side session

def flowEnded (c : Connection) (side : Side) : Except FlowError (Option Action) × Session → Connection
  | (.ok (some _), session) => c.setSession side session
  | (.ok none, session) | (.error _, session) => (c.setSession side session).fail

def handleIncomingPubrec (c : Connection) (side : Side) (packet : V5.PubRec) : Connection :=
  match (c.session side).handlePubrec packet.packetId (ByteCode.asU8 packet.reasonCode) with
  | (.ok (some (.sendPubrel _)), session) =>
    (c.setSession side session).sendPacket side
      (.pubRel { packetId := packet.packetId, reasonCode := .success, properties := .new })
  | (.ok _, session) | (.error _, session) => (c.setSession side session).fail

/-- What is done with a packet. An acknowledgement is awaited by the call that published the message. -/
def handleIncoming (c : Connection) (side : Side) : V5.IncomingPacket → Connection
  | .publish packet => c.handleIncomingPublish side packet
  | .pubAck packet => c.flowEnded side ((c.session side).handlePuback packet.packetId)
  | .pubRec packet => c.handleIncomingPubrec side packet
  | .pubRel packet => c.handleIncomingPubrel side packet.packetId
  | .pubComp packet => c.flowEnded side ((c.session side).handlePubcomp packet.packetId)
  | .pingResp _ => c.setSession side (c.session side).pingrespReceived
  | .connAck _ | .subAck _ | .unsubAck _ | .disconnect _ | .auth _ => c.fail

def take (c : Connection) (side : Side) : Connection :=
  match (c.lines side.other).decoder.decode with
  | (.ok none, decoder) => c.setDecoder side decoder
  | (.ok (some (.v5 packet)), decoder) => (c.setDecoder side decoder).handleIncoming side packet
  | (_, decoder) => (c.setDecoder side decoder).fail

/-- A message is published if it can be encoded, the server takes it, and the quota allows it. -/
def publish (c : Connection) (side : Side) (packet : V5.Publish) : Option Connection :=
  match V5.OutgoingPacket.encodeToVec (.publish packet) with
  | .ok written =>
    if (c.session side).validateOutgoingPublish packet.qos packet.retain written.length = .ok () then
      let sent := { c with published := Function.update c.published side (c.published side ++ [packet]) }
      match packet.packetId with
      | none => some (sent.sendPacket side (.publish packet))
      | some packetId =>
        if ((c.session side).publishSent packet.qos packetId).1 = .ok () then
          ((c.users side).next (.publishSent packet.qos packetId)).map fun user =>
            (sent.setUser side user).sendPacket side (.publish packet)
        else none
    else none
  | _ => none

def aside (op : SessionOp) : Bool :=
  Session.keepsSending op && Session.keepsReceiving op && Session.keepsConnection op

def next (c : Connection) : ConnectionOp → Option Connection
  | .publish side packet => c.publish side packet
  | .arrive side count =>
    ((c.lines side).arrive count).map fun line => { c with lines := Function.update c.lines side line }
  | .take side => some (c.take side)
  | .acknowledge side packetId =>
    if (c.session side).qosFlow.incoming.get? packetId = some .incomingAwaitingPuback then
      let c := c.sendPacket side (.pubAck { packetId, reasonCode := .success, properties := .new })
      some (c.setSession side ((c.session side).pubackSent packetId))
    else none
  | .call side op => if aside op then ((c.users side).next op).map (c.setUser side) else none

def start (users : Side → PacketIdUser) (limits : Side → Limits) : Connection where
  users := users
  lines := fun side => .idle .v5 (limits side)
  published := fun _ => []
  accepted := fun _ => []
  failed := false

end Connection

end MqttRs
