import WindowsKext.Library.FirstMatch
import WindowsKext.Library.KeyedGroups
import WindowsKext.Library.ByteString
import WindowsKext.Library.InternetChecksum
import WindowsKext.Library.ExitLoop
import WindowsKext.Library.Interleaving
import WindowsKext.Library.LittleEndian
import WindowsKext.Library.Layout
import WindowsKext.Library.PrefixCode
import WindowsKext.Library.PastTime
import WindowsKext.Library.Rundown
import WindowsKext.Library.Block
import WindowsKext.Library.RingBuffer
import WindowsKext.ConnectionCore
import WindowsKext.ConnectionMapCore
import WindowsKext.ConnectionMapChecks
import WindowsKext.ConnectionMapReference
import WindowsKext.ConnectionMapRuns
import WindowsKext.ConnectionMapLifecycle
import WindowsKext.ConnectionMapExpiry
import WindowsKext.RedirectReplies
import WindowsKext.WireCore
import WindowsKext.WireChecks
import WindowsKext.Ipv6PacketCore
import WindowsKext.Ipv6HeaderChain
import WindowsKext.Ipv6PacketChecks
import WindowsKext.PacketUtilCore
import WindowsKext.PacketUtilChecks
import WindowsKext.IdCacheCore
import WindowsKext.IdCacheChecks
import WindowsKext.IdCacheRuns
import WindowsKext.PacketRewrites
import WindowsKext.TcpEndpointCacheCore
import WindowsKext.TcpEndpointCacheChecks
import WindowsKext.TcpEndpointCacheRuns
import WindowsKext.TcpEndpointCacheIndex
import WindowsKext.DispatchGateRuns
import WindowsKext.ConnectionCacheCore
import WindowsKext.ConnectionCacheChecks
import WindowsKext.DeviceCore
import WindowsKext.VerdictRuns
import WindowsKext.AlePolicyCore
import WindowsKext.RedirectVerdicts
import WindowsKext.PacketMetadataCore
import WindowsKext.PacketMetadataOriginal
import WindowsKext.PacketMetadataChecks
import WindowsKext.PacketMetadataReference
import WindowsKext.PacketCalloutsCore
import WindowsKext.PacketCalloutsChecks
import WindowsKext.PacketCalloutsRuns
import WindowsKext.PacketMetadataFailures
import WindowsKext.Ipv6HeaderWalk
import WindowsKext.NetBufferReaderCore
import WindowsKext.NetBufferReaderChecks
import WindowsKext.PacketEndpoints
import WindowsKext.RedirectRoundTrip
import WindowsKext.DeviceThreadsCore
import WindowsKext.DeviceThreadsChecks
import WindowsKext.DeviceThreadsQueue
import WindowsKext.PendedOperations
import WindowsKext.EventOrder
import WindowsKext.TcpClosureChecks
import WindowsKext.ClassifyPends
import WindowsKext.TcpClosureRuns
import WindowsKext.InfoCore
import WindowsKext.EventStreamCore
import WindowsKext.EventStreamRuns
import WindowsKext.RecvInfoCore
import WindowsKext.RecvInfoFraming
import WindowsKext.DispatchCore
import WindowsKext.DispatchChecks
import WindowsKext.DispatchRuns
import WindowsKext.InfoChecks
import WindowsKext.WireInterop
import WindowsKext.CommandCore
import WindowsKext.CommandBatches
import WindowsKext.UdpFlowCore
import WindowsKext.UdpFlowRuns
import WindowsKext.UdpEndpointCore
import WindowsKext.UdpLifecycleCore
import WindowsKext.UdpLifecycleRuns
import WindowsKext.CallbackBarrierCore
import WindowsKext.CallbackBarrierRuns
import WindowsKext.PipeServerCore
import WindowsKext.PipeServerRuns
import WindowsKext.PipeTransportCore
import WindowsKext.PipeTransportFraming
import WindowsKext.KextFile
import WindowsKext.ProcessSuspensionsCore
import WindowsKext.ProcessSuspensionsRuns
import WindowsKext.IcmpEchoRuns
import WindowsKext.BandwidthCore
import WindowsKext.BandwidthRuns
import WindowsKext.TransportInjection
import WindowsKext.FilterEngineCore
import WindowsKext.FilterEngineResets
import WindowsKext.FilterEngineTeardown
import WindowsKext.Logger
