import MqttRs.Decoder
import MqttRs.State.Session

/-! A client that has sent its CONNECT and waits for the answer. -/

namespace MqttRs

/-- One property of a CONNACK, in the loop of `connack_params_from`. -/
def ConnackParams.supply (params : ConnackParams) : V5.Property → ConnackParams
  | .sessionExpiryInterval interval => { params with sessionExpiryInterval := some interval }
  | .receiveMaximum max => { params with receiveMaximum := some max }
  | .topicAliasMaximum max => { params with topicAliasMaximum := some max }
  | .serverKeepAlive secs => { params with serverKeepAlive := some secs }
  | .maximumPacketSize size => { params with maximumPacketSize := some size }
  | .maximumQos value => { params with maximumQos := ByteCode.fromU8 value }
  | .retainAvailable value => { params with retainAvailable := some (value == 1) }
  | .wildcardSubscriptionAvailable value => { params with wildcardSubscriptionAvailable := some (value == 1) }
  | .subscriptionIdentifierAvailable value => { params with subscriptionIdentifiersAvailable := some (value == 1) }
  | .sharedSubscriptionAvailable value => { params with sharedSubscriptionAvailable := some (value == 1) }
  | .assignedClientIdentifier name => { params with assignedClientIdentifier := some name }
  | .authenticationMethod name => { params with authenticationMethod := some name }
  | _ => params

def connackParamsFrom (connack : V5.ConnAck) : ConnackParams :=
  connack.properties.properties.foldl ConnackParams.supply (.successV5 connack.sessionPresent none)

inductive ConnectError where
  | decode (reason : DecodeError)
  | unexpectedPacket
  | connectRefused (reasonCode : V5.ConnectReasonCode)
  | connack (reason : ConnackError)
  deriving DecidableEq

def Session.answered (s : Session) (connack : V5.ConnAck) : Outcome ConnectError Unit × Session :=
  if connack.reasonCode ≠ .success then (.error (.connectRefused connack.reasonCode), s)
  else
    let (result, s) := s.applyConnack (connackParamsFrom connack)
    (result.mapError .connack, s)

/-- The client, the bytes that it has received, and how the connection attempt has ended. -/
structure Handshake where
  session : Session
  decoder : Decoder
  received : List UInt8
  outcome : Option (Outcome ConnectError Unit)

inductive HandshakeOp where
  | feed (data : List UInt8)
  | receive

namespace Handshake

def finish (h : Handshake) (outcome : Outcome ConnectError Unit) : Handshake := { h with outcome := some outcome }

def feed (h : Handshake) (data : List UInt8) : Handshake :=
  let h := { h with received := h.received ++ data }
  match h.decoder.feed data with
  | (.ok _, decoder) => { h with decoder }
  | (.error reason, decoder) => { h with decoder }.finish (.error (.decode reason))
  | (.panic, decoder) => { h with decoder }.finish .panic
  | (.hang, decoder) => { h with decoder }.finish .hang

-- The decoder keeps the bytes behind the CONNACK and only gets other limits.
def answer (h : Handshake) (connack : V5.ConnAck) : Handshake :=
  match h.session.answered connack with
  | (.ok _, session) => { h with session, decoder := h.decoder.setLimits session.limits }.finish (.ok ())
  | (refused, session) => { h with session }.finish refused

def receive (h : Handshake) : Handshake :=
  match h.decoder.decode with
  | (.ok none, decoder) => { h with decoder }
  | (.ok (some (.v5 (.connAck connack))), decoder) => { h with decoder }.answer connack
  | (.ok (some _), decoder) => { h with decoder }.finish (.error .unexpectedPacket)
  | (.error reason, decoder) => { h with decoder }.finish (.error (.decode reason))
  | (.panic, decoder) => { h with decoder }.finish .panic
  | (.hang, decoder) => { h with decoder }.finish .hang

def next (h : Handshake) (op : HandshakeOp) : Option Handshake :=
  if h.outcome.isSome then none
  else match op with
    | .feed data => some (h.feed data)
    | .receive => some h.receive

def start (session : Session) (limits : Limits) : Handshake where
  session := session
  decoder := (Decoder.new .v5).withLimits limits
  received := []
  outcome := none

end Handshake

end MqttRs
