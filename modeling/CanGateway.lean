import CanGateway.DownloadStream
import CanGateway.CommandStream
import CanGateway.ChannelSetLifecycle
import CanGateway.Simulator
import CanGateway.TransmitThread
import CanGateway.BroadcastStorage
import CanGateway.DownloadDispatch
import CanGateway.NormalData
import CanGateway.CanConfig
import CanGateway.ConfigHistory
import CanGateway.PacketIntegrity
import CanGateway.PacketMessages
import CanGateway.UploadRecords
import CanGateway.ArrayBounds
import CanGateway.BufferReport
import CanGateway.FramingRoundTrip
import CanGateway.RingInterleaving
import CanGateway.SocketExits
import CanGateway.ReceiveConsumers
import CanGateway.LockDiscipline
import CanGateway.ReportNumbers
import CanGateway.FlashGeometry
import CanGateway.FlashVerify
import CanGateway.BroadcastPath
import CanGateway.FlashOutcome
import CanGateway.NormalWrites
import CanGateway.ReportTypes
import CanGateway.ReceivePath
import CanGateway.CommandReplies
import CanGateway.RingSets
import CanGateway.EventPackets
import CanGateway.DriverResources
import CanGateway.FlowControl
import CanGateway.UploadStream
