import RdpExt.ProtocolSerializer
import RdpExt.SessionAgreement
import RdpExt.DeliveryTermination
import RdpExt.ServerTelemetry
import RdpExt.TelemetryTimerControl
import RdpExt.MstscOpenEvents
import RdpExt.WtsCarries
import RdpExt.SessionIsolation
import RdpExt.SessionHistory
import RdpExt.HonestTraffic
import RdpExt.ExecutorLifecycle
import RdpExt.MstscWrites
import RdpExt.HandlerAlternation
import RdpExt.ChannelUse
import RdpExt.WtsSends
import RdpExt.WtsReads
import RdpExt.AcceptedBytes
import RdpExt.CpuSamplerWin
import RdpExt.TimerLiveness
import RdpExt.RedundantStart
import RdpExt.TimedController
import RdpExt.ConnectionStates
import RdpExt.ExecutorTimers
import RdpExt.WtsOwnership
import RdpExt.RegistryExactness
import RdpExt.ExecutorAccounts
import RdpExt.TidyDeployment
import RdpExt.DeployedRefinement
import RdpExt.DeployedFragments
import RdpExt.DeployedOutcome
import RdpExt.SessionRepair
import RdpExt.MessageStreams
import RdpExt.HandshakeTwins
import RdpExt.SamplerAccounts
import RdpExt.TimedDeployment
import RdpExt.PluginIsolation
