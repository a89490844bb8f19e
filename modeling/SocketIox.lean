import SocketIox.Wire.Text
import SocketIox.Wire.Base64
import SocketIox.Wire.Segments
import SocketIox.Wire.Lines
import SocketIox.Store.Groups
import SocketIox.Store.Insertions
import SocketIox.Proc.TryStream
import SocketIox.Proc.Runs
import SocketIox.Proc.Tasks
import SocketIox.Proc.Exclusive
import SocketIox.Proc.Spawned
import SocketIox.Proc.Attempt
import SocketIox.Proc.Duplex
import SocketIox.Proc.Views
import SocketIox.SocketIo.Value
import SocketIox.EngineIo.Packet
import SocketIox.EngineIo.Transport
import SocketIox.EngineIo.Socket
import SocketIox.EngineIo.PacketCodec
import SocketIox.EngineIo.PayloadCodec
import SocketIox.EngineIo.PollNext
import SocketIox.EngineIo.Disconnect
import SocketIox.EngineIo.CloseOnce
import SocketIox.EngineIo.PollingDelivery
import SocketIox.EngineIo.WebsocketDelivery
import SocketIox.EngineIo.AcceptedPackets
import SocketIox.EngineIo.PostDelivery
import SocketIox.EngineIo.ChunkedPolling
import SocketIox.EngineIo.PolledStream
import SocketIox.EngineIo.Upgrade
import SocketIox.EngineIo.UpgradeDelivery
import SocketIox.EngineIo.UpgradeStream
import SocketIox.EngineIo.HttpRequest
import SocketIox.EngineIo.HttpHandling
import SocketIox.EngineIo.HttpResponse
import SocketIox.EngineIo.Handshake
import SocketIox.EngineIo.Probe
import SocketIox.EngineIo.SocketBuilder
import SocketIox.EngineIo.BuiltSocket
import SocketIox.EngineIo.SidGenerator
import SocketIox.EngineIo.Server
import SocketIox.EngineIo.OpenRegistered
import SocketIox.EngineIo.HandlesInStep
import SocketIox.EngineIo.SidUniqueness
import SocketIox.EngineIo.PingPong
import SocketIox.EngineIo.PingTimeout
import SocketIox.EngineIo.SessionTasks
import SocketIox.EngineIo.PollingIsolation
import SocketIox.SocketIo.Packet
import SocketIox.SocketIo.PacketCodec
import SocketIox.SocketIo.PacketFields
import SocketIox.SocketIo.AcceptedTexts
import SocketIox.SocketIo.Payload
import SocketIox.SocketIo.RawSocket
import SocketIox.SocketIo.Reassembly
import SocketIox.SocketIo.MessageFidelity
import SocketIox.SocketIo.PayloadShape
import SocketIox.SocketIo.ReceivePath
import SocketIox.SocketIo.GroupDelivery
import SocketIox.SocketIo.FailedGroup
import SocketIox.SocketIo.PollPacket
import SocketIox.SocketIo.Acks
import SocketIox.SocketIo.AckSafety
import SocketIox.SocketIo.AckLock
import SocketIox.SocketIo.EmitWithAck
import SocketIox.SocketIo.SidGenerator
import SocketIox.SocketIo.Server
import SocketIox.SocketIo.RoomMembership
import SocketIox.SocketIo.DirectAddressing
import SocketIox.SocketIo.JoinRace
import SocketIox.SocketIo.CallbackOrder
import SocketIox.SocketIo.BroadcastOrder
import SocketIox.SocketIo.Registry
import SocketIox.SocketIo.RegistryInvariant
import SocketIox.SocketIo.ClosedConnection
import SocketIox.SocketIo.CallbackEmit
import SocketIox.SocketIo.HandleConnect
import SocketIox.SocketIo.SidUniqueness
import SocketIox.SocketIo.Registration
import SocketIox.SocketIo.NamespaceAgreement
import SocketIox.SocketIo.Reconnect
import SocketIox.SocketIo.ReconnectAttempts
import SocketIox.SocketIo.Backoff
import SocketIox.SocketIo.PollLoop
import SocketIox.SocketIo.ConnectSocket
import SocketIox.SocketIo.Dispatch
import SocketIox.SocketIo.Session
import SocketIox.SocketIo.PolledSession
import SocketIox.SocketIo.AckExchange
import SocketIox.SocketIo.EmitToWithAck
