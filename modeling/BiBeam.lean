import BiBeam.Coordinator.GateFloor
import BiBeam.Coordinator.GateRegion
import BiBeam.Coordinator.GateRefinement
import BiBeam.Coordinator.RotationPost
import BiBeam.Coordinator.RotationLive
import BiBeam.Coordinator.RotationInterleaving
import BiBeam.Coordinator.MatchRequests
import BiBeam.Node.ForwarderRuns
import BiBeam.Node.CoordinatorAffinity
import BiBeam.MultihopDelivery
import BiBeam.Protocol.CodecRoundTrip
import BiBeam.Discovery.InviteBinding
import BiBeam.Discovery.BootstrapSafety
import BiBeam.Coordinator.InviteBudget
import BiBeam.Coordinator.RegionMembers
import BiBeam.Coordinator.PathAssembly
import BiBeam.Tun.MssClamp
import BiBeam.Cli.RotationLoop
import BiBeam.Node.CohortWsRuns
import BiBeam.Coordinator.PathFolding
import BiBeam.Discovery.FailoverOrder
import BiBeam.Tun.ClampExact
import BiBeam.Tun.FlowRuns
import BiBeam.Transport.StunResponse
import BiBeam.RelayHeader
import BiBeam.Cli.InboundAgreement
import BiBeam.Tun.Parser
import BiBeam.Discovery.PkarrFallback
import BiBeam.Coordinator.Eviction
import BiBeam.Coordinator.RefusalRows
import BiBeam.Node.ReconnectBackoff
import BiBeam.Runtime.AuditExact
import BiBeam.Cli.SessionState
import BiBeam.Tun.Outbound
import BiBeam.Tun.Inbound
import BiBeam.Node.ExitMode
import BiBeam.Node.QuicServer
import BiBeam.Node.RateLimit
import BiBeam.Coordinator.RateLimit
import BiBeam.Coordinator.RowBytes
import BiBeam.Node.ForwarderLoop
import BiBeam.Node.Registration
import BiBeam.Node.EventStream
import BiBeam.Coordinator.AuditRows
import BiBeam.Coordinator.RegionVerify
import BiBeam.Cli.InviteArmour
import BiBeam.Node.RotationHandler
import BiBeam.Cli.Config
import BiBeam.Transport.PeerConfig
import BiBeam.Transport.Relay
import BiBeam.Transport.StunDiscovery
import BiBeam.SessionTokens
import BiBeam.Coordinator.GeoipVerify
