import MqttRs.State.AbortPublish
import MqttRs.State.ExactlyOnce
import MqttRs.State.InitialAuth
import MqttRs.State.ReceiveQuota
import MqttRs.State.SendQuota
import MqttRs.V311.Packet
import MqttRs.Codec.FixedWidth
import MqttRs.Codec.ShortestForm
import MqttRs.V5.Acks
import MqttRs.V5.ConnAck
import MqttRs.V5.Connect
import MqttRs.V5.Disconnect
import MqttRs.V5.Packet
import MqttRs.V5.RoundTrip
import MqttRs.State.ErrorPubrec
import MqttRs.State.Negotiation
import MqttRs.State.Reconnect
import MqttRs.State.IdentifierSpaces
import MqttRs.State.Reset
import MqttRs.Decoder
import MqttRs.Decoder.SizeLimit
import MqttRs.Decoder.BufferBound
import MqttRs.Decoder.Draining
import MqttRs.State.PacketIdOwnership
import MqttRs.State.PacketIdPool
import MqttRs.State.QuotaLeak
import MqttRs.State.ReceiveResumption
import MqttRs.ParserSafety
import MqttRs.EncoderExactness
import MqttRs.FrameClassification
import MqttRs.Decoder.Fragmentation
import MqttRs.V5.Canonical
import MqttRs.State.AuthLifecycle
import MqttRs.State.FailedCalls
import MqttRs.State.RetransmissionOrder
import MqttRs.State.PublishOnce
import MqttRs.State.Replay
import MqttRs.State.SubscriptionIndex
import MqttRs.State.AliasAgreement
import MqttRs.Codec.Exactness
import MqttRs.Directions
import MqttRs.Decoder.Delivery
import MqttRs.PacketStream
import MqttRs.State.Pinging
import MqttRs.State.OutgoingChecks
import MqttRs.State.SubscriptionAgreement
import MqttRs.State.Conversation.Safety
import MqttRs.State.Correspondence.Safety
import MqttRs.Connection.Progress
import MqttRs.Handshake.Safety
