import WaitAgent.Mux.ClosedStreams
import WaitAgent.Mux.DeferredGrants
import WaitAgent.Mux.FailedOpens
import WaitAgent.Mux.FrameCodec
import WaitAgent.Mux.ParkedReads
import WaitAgent.Mux.ParkedWrites
import WaitAgent.Mux.Pipes
import WaitAgent.Node.ConnectAnswers
import WaitAgent.Node.Consoles
import WaitAgent.Node.ErrorLog
import WaitAgent.Node.FileUris
import WaitAgent.Node.MirrorSize
import WaitAgent.Node.PastedFiles
import WaitAgent.Node.PtyInput
import WaitAgent.Node.Publications
import WaitAgent.Node.SessionExit
import WaitAgent.Node.Takeover
import WaitAgent.Process.Primary
import WaitAgent.Relay.Accounting
import WaitAgent.Relay.Admission
import WaitAgent.Relay.HeartbeatTask
import WaitAgent.Relay.LinkFollows
import WaitAgent.Relay.LinkLoss
import WaitAgent.Relay.LostResponses
import WaitAgent.Relay.OpenOrder
import WaitAgent.Relay.RouteTeardown
import WaitAgent.Relay.ServeFile
import WaitAgent.Relay.Whitelist
import WaitAgent.Remote.AckSoundness
import WaitAgent.Remote.AuthorityHosts
import WaitAgent.Remote.CatalogFold
import WaitAgent.Remote.Heartbeat
import WaitAgent.Remote.HostHistory
import WaitAgent.Remote.ObserverSync
import WaitAgent.Remote.OnlineSignals
import WaitAgent.Remote.OperatorKey
import WaitAgent.Remote.Replay
import WaitAgent.Remote.SnapshotDates
import WaitAgent.Remote.StaleEvents
import WaitAgent.Terminal.CrashFree
import WaitAgent.Terminal.FullScreen
import WaitAgent.Terminal.StyledLines
import WaitAgent.Transport.FrameStream
import WaitAgent.Web.Fingerprints
import WaitAgent.Web.MagicLimit
