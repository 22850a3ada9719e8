import SyncAudio.Lib.LabelledRun
import SyncAudio.Lib.Leases
import SyncAudio.Lib.Word
import SyncAudio.Lib.Checked
import SyncAudio.Lib.BigEndian
import SyncAudio.Lib.OrderedMap
import SyncAudio.Lib.LastWrite
import SyncAudio.Lib.LargestKeys
import SyncAudio.Lib.Rounding
import SyncAudio.Lib.Rescale
import SyncAudio.Lib.Coverage
import SyncAudio.Lib.Spans
import SyncAudio.Lib.OrderStatistic
import SyncAudio.Lib.Binary64
import SyncAudio.Lib.Text
import SyncAudio.Lib.FloatText
import SyncAudio.Lib.InputStream
import SyncAudio.Lib.ShortestDecimal
import SyncAudio.Lib.Numeral
import SyncAudio.Lib.FixedPoint
import SyncAudio.Lib.LeastSquares
import SyncAudio.Lib.DampedStep
import SyncAudio.Lib.Gaps
import SyncAudio.Lib.Lines
import SyncAudio.Lib.ReleaseQueue
import SyncAudio.Lib.DomainName
import SyncAudio.Lib.Generations
import SyncAudio.Core.Room
import SyncAudio.Core.PacketSerializer
import SyncAudio.Core.PlaybackClock
import SyncAudio.Core.ClockArithmetic
import SyncAudio.Core.DriftCorrection
import SyncAudio.Core.ClockSync
import SyncAudio.Core.ClockSyncSerializer
import SyncAudio.Core.JitterBuffer
import SyncAudio.Core.JitterBufferInvariant
import SyncAudio.Core.JitterBufferOrder
import SyncAudio.Core.JitterBufferRejection
import SyncAudio.Core.JitterBufferReads
import SyncAudio.Desktop.PlayerRing
import SyncAudio.Desktop.StreamEnd
import SyncAudio.Desktop.NetworkHost
import SyncAudio.Desktop.StreamFile
import SyncAudio.Desktop.AudioClient
import SyncAudio.Desktop.ClockSyncTransport
import SyncAudio.Desktop.ClockSyncServer
import SyncAudio.Desktop.NetworkImpairment
import SyncAudio.Desktop.ScheduledStreamPlayer
import SyncAudio.Desktop.PlaybackCursor
import SyncAudio.Desktop.UnderrunCount
import SyncAudio.Desktop.Resampler
import SyncAudio.Desktop.ControlChannel
import SyncAudio.Desktop.RoomJoinClient
import SyncAudio.Desktop.RoomClientLoop
import SyncAudio.Desktop.PlaybackPosition
import SyncAudio.Desktop.MainWindow
import SyncAudio.Desktop.CommandLine
import SyncAudio.Desktop.RoomDiscovery
import SyncAudio.Desktop.RecordUpdates
import SyncAudio.Desktop.RoomListing
import SyncAudio.Desktop.DnsReader
import SyncAudio.Desktop.RunHost
import SyncAudio.Desktop.Mdns
import SyncAudio.Desktop.DiscoveryService
import SyncAudio.Desktop.MdnsListen
import SyncAudio.Desktop.SequenceStatistics
import SyncAudio.System.AudioPath
import SyncAudio.System.CommandMailbox
import SyncAudio.System.StreamRotation
import SyncAudio.Ios.AudioPacket
import SyncAudio.Ios.PacketPlaybackQueue
import SyncAudio.Ios.ReceiverSnapshot
import SyncAudio.Ios.StreamAccounting
import SyncAudio.System.PacketIdentity
import SyncAudio.System.Timeline
import SyncAudio.Ios.ClockSync
import SyncAudio.Ios.ClockSyncWire
import SyncAudio.System.ClockSelection
import SyncAudio.System.ClockProbes
import SyncAudio.Ios.HostControlChannel
import SyncAudio.Ios.HostWelcome
import SyncAudio.Ios.ControlSegmentation
import SyncAudio.Ios.ClientReport
import SyncAudio.Ios.AudioPlaybackController
import SyncAudio.Ios.RoomActions
import SyncAudio.System.SeekAnnouncement
import SyncAudio.System.StreamAgreement
import SyncAudio.System.Membership
import SyncAudio.System.JoinRoundTrip
import SyncAudio.System.HealthReport
import SyncAudio.System.SegmentClocks
import SyncAudio.System.PhaseLoop
import SyncAudio.System.ReportGrammar
import SyncAudio.System.RoomRecords
import SyncAudio.System.ResponseLines
import SyncAudio.System.DeviceList
import SyncAudio.System.RoomAnnouncement
import SyncAudio.System.RoomNetwork
import SyncAudio.System.RoomQueries
import SyncAudio.System.RoomWindow
import SyncAudio.Ios.UDPStreamReceiver
import SyncAudio.System.ReceiverSession
import SyncAudio.Ios.HostClockSync
import SyncAudio.System.PhoneClock
import SyncAudio.System.HostServer
import SyncAudio.System.RemotePeers
import SyncAudio.System.ControlVerdict
import SyncAudio.Ios.PlaybackTiming
import SyncAudio.Ios.QueueArithmetic
import SyncAudio.Ios.QueueProgress
import SyncAudio.Ios.PlaybackPump
import SyncAudio.Ios.PlaybackTraps
import SyncAudio.Ios.ScheduledBuffers
import SyncAudio.Ios.PlaybackStart
import SyncAudio.Ios.SeekQueue
import SyncAudio.Ios.SeekStaging
