import WalnutGateway.Command.Authorize
import WalnutGateway.Command.Handler
import WalnutGateway.Command.Password
import WalnutGateway.Command.Pipeline
import WalnutGateway.Command.Replies
import WalnutGateway.Command.StmRequest
import WalnutGateway.Command.Wipe
import WalnutGateway.Common.BroadcastDelivery
import WalnutGateway.Common.EventManager
import WalnutGateway.Common.Search
import WalnutGateway.Common.Text
import WalnutGateway.Common.TimeAgreement
import WalnutGateway.Common.TimeConversion
import WalnutGateway.Common.Types
import WalnutGateway.Common.Utils
import WalnutGateway.Config.Atomic
import WalnutGateway.Config.AtomicFloats
import WalnutGateway.Config.File
import WalnutGateway.Config.GetSet
import WalnutGateway.Config.GetStrings
import WalnutGateway.Config.GpsSetter
import WalnutGateway.Config.Handles
import WalnutGateway.Config.Load
import WalnutGateway.Config.Modules
import WalnutGateway.Config.Numbers
import WalnutGateway.Config.Registry
import WalnutGateway.Config.RoundTrip
import WalnutGateway.Config.Save
import WalnutGateway.Config.SetReboot
import WalnutGateway.Config.Setters
import WalnutGateway.Config.SoundLoad
import WalnutGateway.Config.Strings
import WalnutGateway.Core.Assignments
import WalnutGateway.Core.BatchSweep
import WalnutGateway.Core.BigEndian
import WalnutGateway.Core.Bytes
import WalnutGateway.Core.Calendar
import WalnutGateway.Core.Chunking
import WalnutGateway.Core.Decimal
import WalnutGateway.Core.Flow
import WalnutGateway.Core.Framing
import WalnutGateway.Core.Machine
import WalnutGateway.Core.OutputLog
import WalnutGateway.Core.Reassembly
import WalnutGateway.Core.Ring
import WalnutGateway.Core.ShiftRegister
import WalnutGateway.Core.SlotTable
import WalnutGateway.Core.TextBuffer
import WalnutGateway.Core.XorEnvelope
import WalnutGateway.Gps.Agps
import WalnutGateway.Gps.BringUp
import WalnutGateway.Gps.Configured
import WalnutGateway.Gps.CurrentPacket
import WalnutGateway.Gps.ElapsedTime
import WalnutGateway.Gps.JumpFilter
import WalnutGateway.Gps.LastValid
import WalnutGateway.Gps.Manager
import WalnutGateway.Gps.Nmea
import WalnutGateway.Gps.Packet
import WalnutGateway.Gps.Pairing
import WalnutGateway.Gps.SendTrigger
import WalnutGateway.Gps.StoredPosition
import WalnutGateway.Module.Startup
import WalnutGateway.Module.Watchdog
import WalnutGateway.Network.Apn
import WalnutGateway.Network.Connected
import WalnutGateway.Network.HealthCadence
import WalnutGateway.Network.Manager
import WalnutGateway.Network.Overall
import WalnutGateway.Network.RadioRestart
import WalnutGateway.Network.Urc
import WalnutGateway.Ota.CheckVersion
import WalnutGateway.Ota.CheckVersionFinds
import WalnutGateway.Ota.Completion
import WalnutGateway.Ota.Download
import WalnutGateway.Ota.DownloadExact
import WalnutGateway.Ota.FlatItems
import WalnutGateway.Ota.Gating
import WalnutGateway.Ota.Https
import WalnutGateway.Ota.Manager
import WalnutGateway.Ota.MetaItems
import WalnutGateway.Ota.VersionMatch
import WalnutGateway.Queue.Boot
import WalnutGateway.Queue.Bounded
import WalnutGateway.Queue.CompactRecord
import WalnutGateway.Queue.FailedAppend
import WalnutGateway.Queue.Fifo
import WalnutGateway.Queue.Frame
import WalnutGateway.Queue.Lifetime
import WalnutGateway.Queue.Operations
import WalnutGateway.Queue.Overflow
import WalnutGateway.Queue.PeekCommit
import WalnutGateway.Queue.PeekPop
import WalnutGateway.Queue.Persist
import WalnutGateway.Queue.Producers
import WalnutGateway.Queue.Reboot
import WalnutGateway.Queue.ReplyRouting
import WalnutGateway.Queue.Representation
import WalnutGateway.Queue.RoundTrip
import WalnutGateway.Queue.SendQueue
import WalnutGateway.Queue.Usable
import WalnutGateway.Reset.Deferred
import WalnutGateway.Reset.PlannedReset
import WalnutGateway.Reset.PreBoot
import WalnutGateway.Reset.RecordProtocol
import WalnutGateway.Reset.Supervision
import WalnutGateway.Sdk.File
import WalnutGateway.Sim.Detect
import WalnutGateway.Sms.Configure
import WalnutGateway.Sms.Delivery
import WalnutGateway.Sms.Extract
import WalnutGateway.Sms.Inbound
import WalnutGateway.Sms.Insertion
import WalnutGateway.Sms.Outbound
import WalnutGateway.Sms.Progress
import WalnutGateway.Storage.FileSystem
import WalnutGateway.Storage.Purge
import WalnutGateway.Storage.PurgeComplete
import WalnutGateway.Storage.PurgeTouches
import WalnutGateway.System.Debounce
import WalnutGateway.System.GpsMirror
import WalnutGateway.System.VehicleState
import WalnutGateway.Tcp.Client
import WalnutGateway.Tcp.ClientInvariant
import WalnutGateway.Tcp.ConnectEvent
import WalnutGateway.Tcp.Delivery
import WalnutGateway.Tcp.ExceptFlag
import WalnutGateway.Tcp.Login
import WalnutGateway.Tcp.LoginFirst
import WalnutGateway.Tcp.Packets
import WalnutGateway.Tcp.Reconnect
import WalnutGateway.Tcp.SendAcked
import WalnutGateway.Tcp.SendWindow
import WalnutGateway.Tcp.SocketPoll
import WalnutGateway.Tcp.SocketTable
import WalnutGateway.Uart.Answer
import WalnutGateway.Uart.Chunking
import WalnutGateway.Uart.Codec
import WalnutGateway.Uart.CommandGrammar
import WalnutGateway.Uart.CommandMap
import WalnutGateway.Uart.CommandReaders
import WalnutGateway.Uart.Correlation
import WalnutGateway.Uart.Crc
import WalnutGateway.Uart.Gateway
import WalnutGateway.Uart.Manager
import WalnutGateway.Uart.Ping
import WalnutGateway.Uart.Protocol
import WalnutGateway.Uart.Receive
import WalnutGateway.Uart.Turns
import WalnutGateway.Uart.UserReply
import WalnutGateway.Uart.UserReplySafe
