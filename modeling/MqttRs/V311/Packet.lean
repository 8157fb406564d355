import MqttRs.V311.Acks
import MqttRs.V311.ConnAck
import MqttRs.V311.Connect
import MqttRs.V311.Publish
import MqttRs.V311.Subscribe

namespace MqttRs.V311

/-- The packets that a client sends. -/
inductive OutgoingPacket where
  | connect (packet : Connect)
  | publish (packet : Publish)
  | pubAck (packet : PubAck)
  | pubRec (packet : PubRec)
  | pubRel (packet : PubRel)
  | pubComp (packet : PubComp)
  | subscribe (packet : Subscribe)
  | unsubscribe (packet : Unsubscribe)
  | pingReq (packet : PingReq)
  | disconnect (packet : Disconnect)
  deriving DecidableEq

namespace OutgoingPacket

def encodedLen : OutgoingPacket → Nat
  | connect packet => packet.encodedLen
  | publish packet => packet.encodedLen
  | pubAck packet => packet.encodedLen
  | pubRec packet => packet.encodedLen
  | pubRel packet => packet.encodedLen
  | pubComp packet => packet.encodedLen
  | subscribe packet => packet.encodedLen
  | unsubscribe packet => packet.encodedLen
  | pingReq packet => packet.encodedLen
  | disconnect packet => packet.encodedLen

def encode : OutgoingPacket → List UInt8 → Outcome EncodeError (List UInt8 × Nat)
  | connect packet => packet.encode
  | publish packet => packet.encode
  | pubAck packet => packet.encode
  | pubRec packet => packet.encode
  | pubRel packet => packet.encode
  | pubComp packet => packet.encode
  | subscribe packet => packet.encode
  | unsubscribe packet => packet.encode
  | pingReq packet => packet.encode
  | disconnect packet => packet.encode

def encodeToVec (packet : OutgoingPacket) : Outcome EncodeError (List UInt8) :=
  MqttRs.encodeToVec packet.encodedLen packet.encode

end OutgoingPacket

inductive IncomingPacket where
  | connAck (packet : ConnAck)
  | publish (packet : Publish)
  | pubAck (packet : PubAck)
  | pubRec (packet : PubRec)
  | pubRel (packet : PubRel)
  | pubComp (packet : PubComp)
  | subAck (packet : SubAck)
  | unsubAck (packet : UnsubAck)
  | pingResp (packet : PingResp)
  deriving DecidableEq

namespace IncomingPacket

def decodeType (packetType : UInt8) (buf : List UInt8) : Outcome DecodeError (IncomingPacket × Nat) :=
  match packetType with
  | 0x20 => (ConnAck.decode buf).tagged connAck
  | 0x30 => (Publish.decode buf).tagged publish
  | 0x40 => (PubAck.decode buf).tagged pubAck
  | 0x50 => (PubRec.decode buf).tagged pubRec
  | 0x60 => (PubRel.decode buf).tagged pubRel
  | 0x70 => (PubComp.decode buf).tagged pubComp
  | 0x90 => (SubAck.decode buf).tagged subAck
  | 0xB0 => (UnsubAck.decode buf).tagged unsubAck
  | 0xD0 => (PingResp.decode buf).tagged pingResp
  | 0x10 => .error (.unexpectedPacket 0x10)
  | 0x80 => .error (.unexpectedPacket 0x80)
  | 0xA0 => .error (.unexpectedPacket 0xA0)
  | 0xC0 => .error (.unexpectedPacket 0xC0)
  | 0xE0 => .error (.unexpectedPacket 0xE0)
  | _ => .error .invalidPacketType

def decode (buf : List UInt8) : Outcome DecodeError (IncomingPacket × Nat) := dispatch decodeType buf

end IncomingPacket

/-- `codec::Packet`, the packets of both directions. -/
inductive Packet where
  | connect (packet : Connect)
  | connAck (packet : ConnAck)
  | publish (packet : Publish)
  | pubAck (packet : PubAck)
  | pubRec (packet : PubRec)
  | pubRel (packet : PubRel)
  | pubComp (packet : PubComp)
  | subscribe (packet : Subscribe)
  | subAck (packet : SubAck)
  | unsubscribe (packet : Unsubscribe)
  | unsubAck (packet : UnsubAck)
  | pingReq (packet : PingReq)
  | pingResp (packet : PingResp)
  | disconnect (packet : Disconnect)
  deriving DecidableEq

namespace Packet

def encodedLen : Packet → Nat
  | connect packet => packet.encodedLen
  | connAck packet => packet.encodedLen
  | publish packet => packet.encodedLen
  | pubAck packet => packet.encodedLen
  | pubRec packet => packet.encodedLen
  | pubRel packet => packet.encodedLen
  | pubComp packet => packet.encodedLen
  | subscribe packet => packet.encodedLen
  | subAck packet => packet.encodedLen
  | unsubscribe packet => packet.encodedLen
  | unsubAck packet => packet.encodedLen
  | pingReq packet => packet.encodedLen
  | pingResp packet => packet.encodedLen
  | disconnect packet => packet.encodedLen

def encode : Packet → List UInt8 → Outcome EncodeError (List UInt8 × Nat)
  | connect packet => packet.encode
  | connAck packet => packet.encode
  | publish packet => packet.encode
  | pubAck packet => packet.encode
  | pubRec packet => packet.encode
  | pubRel packet => packet.encode
  | pubComp packet => packet.encode
  | subscribe packet => packet.encode
  | subAck packet => packet.encode
  | unsubscribe packet => packet.encode
  | unsubAck packet => packet.encode
  | pingReq packet => packet.encode
  | pingResp packet => packet.encode
  | disconnect packet => packet.encode

def encodeToVec (packet : Packet) : Outcome EncodeError (List UInt8) :=
  MqttRs.encodeToVec packet.encodedLen packet.encode

def decodeType (packetType : UInt8) (buf : List UInt8) : Outcome DecodeError (Packet × Nat) :=
  match packetType with
  | 0x10 => (Connect.decode buf).tagged connect
  | 0x20 => (ConnAck.decode buf).tagged connAck
  | 0x30 => (Publish.decode buf).tagged publish
  | 0x40 => (PubAck.decode buf).tagged pubAck
  | 0x50 => (PubRec.decode buf).tagged pubRec
  | 0x60 => (PubRel.decode buf).tagged pubRel
  | 0x70 => (PubComp.decode buf).tagged pubComp
  | 0x80 => (Subscribe.decode buf).tagged subscribe
  | 0x90 => (SubAck.decode buf).tagged subAck
  | 0xA0 => (Unsubscribe.decode buf).tagged unsubscribe
  | 0xB0 => (UnsubAck.decode buf).tagged unsubAck
  | 0xC0 => (PingReq.decode buf).tagged pingReq
  | 0xD0 => (PingResp.decode buf).tagged pingResp
  | 0xE0 => (Disconnect.decode buf).tagged disconnect
  | _ => .error .invalidPacketType

def decode (buf : List UInt8) : Outcome DecodeError (Packet × Nat) := dispatch decodeType buf

def layout : Packet → Layout
  | connect packet => packet.layout
  | connAck packet => packet.layout
  | publish packet => packet.layout
  | pubAck packet => packet.layout
  | pubRec packet => packet.layout
  | pubRel packet => packet.layout
  | pubComp packet => packet.layout
  | subscribe packet => packet.layout
  | subAck packet => packet.layout
  | unsubscribe packet => packet.layout
  | unsubAck packet => packet.layout
  | pingReq packet => packet.layout
  | pingResp packet => packet.layout
  | disconnect packet => packet.layout

variable {buf written : List UInt8} {packet : Packet} {n : Nat}

theorem encodeToVec_eq_ok : packet.encodeToVec = .ok written ↔ packet.layout.Encodes written := by
  cases packet with
  | connect packet => exact Connect.conforms.encodes packet
  | connAck packet => exact ConnAck.conforms.encodes packet
  | publish packet => exact Publish.conforms.encodes packet
  | pubAck packet => exact PubAck.conforms.encodes packet
  | pubRec packet => exact PubRec.conforms.encodes packet
  | pubRel packet => exact PubRel.conforms.encodes packet
  | pubComp packet => exact PubComp.conforms.encodes packet
  | subscribe packet => exact Subscribe.conforms.encodes packet
  | subAck packet => exact SubAck.conforms.encodes packet
  | unsubscribe packet => exact Unsubscribe.conforms.encodes packet
  | unsubAck packet => exact UnsubAck.conforms.encodes packet
  | pingReq packet => exact PingReq.conforms.encodes packet
  | pingResp packet => exact PingResp.conforms.encodes packet
  | disconnect packet => exact Disconnect.conforms.encodes packet

theorem decodeType_serves (packetType : UInt8) (buf : List UInt8) : Serves layout buf (decodeType packetType buf) := by
  rw [decodeType.eq_def]
  split
  · exact .packet Connect.conforms connect fun _ => rfl
  · exact .packet ConnAck.conforms connAck fun _ => rfl
  · exact .packet Publish.conforms publish fun _ => rfl
  · exact .packet PubAck.conforms pubAck fun _ => rfl
  · exact .packet PubRec.conforms pubRec fun _ => rfl
  · exact .packet PubRel.conforms pubRel fun _ => rfl
  · exact .packet PubComp.conforms pubComp fun _ => rfl
  · exact .packet Subscribe.conforms subscribe fun _ => rfl
  · exact .packet SubAck.conforms subAck fun _ => rfl
  · exact .packet Unsubscribe.conforms unsubscribe fun _ => rfl
  · exact .packet UnsubAck.conforms unsubAck fun _ => rfl
  · exact .packet PingReq.conforms pingReq fun _ => rfl
  · exact .packet PingResp.conforms pingResp fun _ => rfl
  · exact .packet Disconnect.conforms disconnect fun _ => rfl
  · exact .refuses _

theorem decode_eq_ok : decode buf = .ok (packet, n) ↔ n ≤ buf.length ∧ packet.layout.Decodes (buf.take n) := by
  constructor
  · intro decoded
    obtain ⟨packetType, _, member⟩ := dispatch_eq_ok decoded
    exact (decodeType_serves packetType buf).decodes member
  · intro both
    obtain ⟨inside, decodes⟩ := both
    cases packet with
    | connect packet => exact Connect.conforms.dispatch_eq rfl inside decodes
    | connAck packet => exact ConnAck.conforms.dispatch_eq rfl inside decodes
    | publish packet => exact Publish.conforms.dispatch_eq rfl inside decodes
    | pubAck packet => exact PubAck.conforms.dispatch_eq rfl inside decodes
    | pubRec packet => exact PubRec.conforms.dispatch_eq rfl inside decodes
    | pubRel packet => exact PubRel.conforms.dispatch_eq rfl inside decodes
    | pubComp packet => exact PubComp.conforms.dispatch_eq rfl inside decodes
    | subscribe packet => exact Subscribe.conforms.dispatch_eq rfl inside decodes
    | subAck packet => exact SubAck.conforms.dispatch_eq rfl inside decodes
    | unsubscribe packet => exact Unsubscribe.conforms.dispatch_eq rfl inside decodes
    | unsubAck packet => exact UnsubAck.conforms.dispatch_eq rfl inside decodes
    | pingReq packet => exact PingReq.conforms.dispatch_eq rfl inside decodes
    | pingResp packet => exact PingResp.conforms.dispatch_eq rfl inside decodes
    | disconnect packet => exact Disconnect.conforms.dispatch_eq rfl inside decodes

/-- No packet of this version has a short form, and no check is on one side only. -/
theorem decodes_iff_encodes : packet.layout.Decodes written ↔ packet.layout.Encodes written := by
  cases packet <;> exact Layout.exactly_decodes

theorem decode_iff_encodeToVec (buf : List UInt8) (packet : Packet) (n : Nat) :
    decode buf = .ok (packet, n) ↔ n ≤ buf.length ∧ packet.encodeToVec = .ok (buf.take n) := by
  rw [decode_eq_ok, decodes_iff_encodes, encodeToVec_eq_ok]

theorem decode_measures (buf : List UInt8) : Measures buf (decode buf) :=
  dispatch_measures fun packetType => (decodeType_serves packetType buf).measures

end Packet

theorem IncomingPacket.decode_measures (buf : List UInt8) : Measures buf (IncomingPacket.decode buf) := by
  apply dispatch_measures
  intro packetType
  rw [decodeType.eq_def]
  split
  · exact (ConnAck.conforms.measures buf).tagged _
  · exact (Publish.conforms.measures buf).tagged _
  · exact (PubAck.conforms.measures buf).tagged _
  · exact (PubRec.conforms.measures buf).tagged _
  · exact (PubRel.conforms.measures buf).tagged _
  · exact (PubComp.conforms.measures buf).tagged _
  · exact (SubAck.conforms.measures buf).tagged _
  · exact (UnsubAck.conforms.measures buf).tagged _
  · exact (PingResp.conforms.measures buf).tagged _
  all_goals exact .error

end MqttRs.V311
