import StunForAndroid.Common.FastHashDynamic
import StunForAndroid.Common.DataCheck
import StunForAndroid.StunCore.Destination
import StunForAndroid.StunCore.Decision
import StunForAndroid.StunCore.Advertised
import StunForAndroid.StunCore.ResponseBuffer
import StunForAndroid.StunCore.ReadLoop
import StunForAndroid.StunCore.Fingerprint
import StunForAndroid.StunCore.ReaderReads
import StunForAndroid.StunCore.ClientEvidence
import StunForAndroid.StunCore.ClientFiltering
import StunForAndroid.StunCore.ReadingCalls
import StunForAndroid.StunCore.Retransmission
import StunForAndroid.StunCore.BufferSizes
import StunForAndroid.StunCore.StreamRefinement
import StunForAndroid.StunCore.MappedAddress
import StunForAndroid.StunCore.RandomTransactionId
import StunForAndroid.Client.OutputFile
import StunForAndroid.Client.ReceiveBuffer
import StunForAndroid.Client.ManyPeers
import StunForAndroid.Client.TcpWaiting
import StunForAndroid.Client.UdpClientLoop
import StunForAndroid.Client.OutgoingDatagrams
import StunForAndroid.Client.LoadFile
import StunForAndroid.NetworkUtils.PollEvents
import StunForAndroid.Server.NoLeak
import StunForAndroid.Server.ExactlyOnce
import StunForAndroid.Server.AuthOwnership
import StunForAndroid.Server.Generations
import StunForAndroid.Server.SampleAuthProvider
import StunForAndroid.Server.ConfigAccepted
import StunForAndroid.Server.IgnoredOptions
import StunForAndroid.Server.TrimmedOptions
import StunForAndroid.Server.Session
import StunForAndroid.Client.UdpClientEnds
import StunForAndroid.Client.TransferCompletes
import StunForAndroid.Server.StopEnds
import StunForAndroid.Server.TcpSession
import StunForAndroid.Server.Transports
import StunForAndroid.Server.OpenDescriptors
import StunForAndroid.Server.PolledSockets
import StunForAndroid.Server.PollLimit
import StunForAndroid.Server.PollWaiting
import StunForAndroid.Server.LimitOverrun
import StunForAndroid.StunCore.FingerprintBursts
