import WaitAgent.Node.AuthorityHostIo
import WaitAgent.Node.SharedState

/-!
# The state event loop of a node server

The state loop is the only writer of the shared state: everything that happens
to a session reaches it as an event, and it handles one event after the other.
Besides the shared state it keeps the handles of the workers that reconnect
sessions and nodes, the set of nodes it knows to be offline, and the snapshot of
the hosts to reconnect to after a restart.

Left out are the events that only change what is displayed of a session (titles,
task states, command names, output), those of the relay, and the answers and
snapshots written to the connected clients.
-/

namespace WaitAgent.Node

open Domain Verified

/-- A dial the ingress server is asked to make. -/
structure OutboundNodeSessionRequest where
  nodeId : String
  endpointUri : String
  tlsPinSha256 : Option String
  via : Option RemoteNodeVia
  deriving DecidableEq, Repr

/-- The record of a session of a peer, as the connect and create flows return
it. -/
abbrev RemoteRecord :=
  { record : ManagedSessionRecord // record.address.transport = .remotePeer }

structure RemoteHostConnectedOutcome where
  authorityNodeId : String
  createdTarget : RemoteRecord
  connectionInfo : Option RemoteNodeConnectionInfo

inductive LocalCatalogChangeReason where
  | localTargetExited (targetSessionName : String)
  | localRuntimeChanged
  deriving DecidableEq, Repr

/-- Events of the state loop; the client commands are among them. -/
inductive StateEvent where
  | localSessionChildExit (target : String)
  | authorityHost (event : AuthorityHostEvent)
  | clientConnected (clientId : Nat)
  | clientDisconnected (clientId : Nat)
  | createLocalSession
  | activateTarget (target : String)
  | resize (cols rows : Nat)
  | closeSession (target : String)
  | createAuthorityHostSession (cols rows : Nat)
  | remoteHostConnectResult (profileName : String)
      (result : Except String RemoteHostConnectedOutcome) (activate : Bool)
  | snapshotHostReconnectResult (profileName authorityNodeId : String)
      (result : Except String RemoteHostConnectedOutcome) (waiters : Bool)
  | remoteSessionCreateResult (result : Except String RemoteRecord)
  | remoteSessionDisconnected (target : String)
  | remoteSessionReconnected (target : String)
  | remoteSessionCatalogUpdated (record : ManagedSessionRecord)
  | sessionClosed (target : String)
  | remoteNodeOffline (nodeId : String)
  | remoteNodeOnline (nodeId : String)
  | remoteNodeReachable (nodeId : String)
  | remoteNodeReconnectFailed (nodeId : String)
  | recordRemoteNodeConnection (nodeId : String) (info : RemoteNodeConnectionInfo)
  | networkConnectivityChanged (online : Bool)

/-- What the surroundings answer while one event is handled. -/
structure LoopEnv where
  /-- the order in which maps are visited -/
  order : Nat := 0
  /-- opening a viewer of a remote session -/
  opened : Except String Unit := .ok ()
  /-- starting a shell: its process -/
  spawned : Except String Nat := .error "failed to spawn"
  /-- duplicating the handle of a terminal -/
  ptyCloned : Bool := true
  shell : Option String := none
  /-- milliseconds on the monotonic clock -/
  now : Nat := 0
  /-- writing the snapshot file -/
  snapshotSaved : Bool := true

/-- What the loop sends to other threads.  The workers that reconnect sessions
are numbered in the order of their start. -/
inductive Effect where
  | hostIo (request : AuthorityHostIoRequest)
  | startReconnect (worker : Nat) (record : ManagedSessionRecord) (cols rows : Nat)
  /-- a message on the worker's channel, whose sender is dropped afterwards -/
  | cancelReconnect (worker : Nat)
  /-- the sender of the worker's channel is dropped -/
  | dropReconnect (worker : Nat)
  | closeNodeIngressSession (nodeId : String)
  | catalogChanged (reason : LocalCatalogChangeReason)
  deriving DecidableEq, Repr

inductive CommandOutcome where
  | ok
  | error (message : String)
  deriving DecidableEq, Repr

/-- The state of the loop.  A handle is named by the worker it belongs to, or
holds what its worker was started with. -/
structure StateLoop where
  shared : SharedState
  connectedClients : List Nat := []
  reconnectHandles : HashMap String Nat := ∅
  outboundDialRetryHandles : HashMap String OutboundNodeSessionRequest := ∅
  /-- how many seconds each of the nodes is waited for -/
  inboundConnectWaitHandles : HashMap String Nat := ∅
  /-- the host and port each probe tries -/
  peerReachabilityHandles : HashMap String (String × Nat) := ∅
  lastRetryReset : HashMap String Nat := ∅
  offlineNodes : List String := []
  networkOnline : Bool := true
  /-- the profile each node was connected with -/
  snapshot : HashMap String String := ∅
  nextWorker : Nat := 0

/-- The record is one of a session of the node. -/
def isOfNode (nodeId : String) (r : ManagedSessionRecord) : Bool :=
  r.address.transport == .remotePeer && r.address.authorityId == nodeId

/-! ## Commands that send requests to authority-host sessions -/

namespace SharedState

/-- The authority-host session of the active target, by its record. -/
def activeAuthorityHostSessionId (s : SharedState) : Option String := do
  let target ← s.activeTarget
  let record ← s.sessions.findTarget target
  if (s.authorityHostSessions.lookup record.address.sessionId).isSome then
    some record.address.sessionId
  else
    none

/-- The size the clients last reported, or the default one. -/
def clientSize (s : SharedState) : Nat × Nat :=
  s.lastClientResize.getD (80, 24)

/-- The local console leaves the authority-host session that is shown. -/
def leaveRequests (s : SharedState) : List AuthorityHostIoRequest :=
  match s.activeTarget with
  | none => []
  | some target =>
      match s.hostSessionIn target with
      | some sessionId => [.unregisterConsole sessionId "local"]
      | none => []

/-- The local console joins the authority-host session of a target. -/
def joinRequests (s : SharedState) (target : String) : List AuthorityHostIoRequest :=
  match s.hostSessionIn target with
  | some sessionId => [.resize sessionId "local" s.clientSize.1 s.clientSize.2]
  | none => []

/-- Make a target the one that is shown; the viewer of a peer's session is
opened at the size of the clients. -/
def showTarget (s : SharedState) (isRemote : Bool) (target : String) : SharedState :=
  let previous := s.activeTarget
  let s := { s with activeTarget := some target }
  if isRemote ∧ previous ≠ some target then s.resizeActiveRemoteSession else s

/-- Show another target.  The local console leaves the authority-host session
that was shown and joins the one that is shown now; both are recognised by the
last part of the target. -/
def activateTarget (s : SharedState) (opened : Except String Unit) (target : String) :
    SharedState × List AuthorityHostIoRequest × CommandOutcome :=
  match s.sessions.findTarget target with
  | none => (s, [], .error "unknown target")
  | some record =>
      let isRemote := record.address.transport == .remotePeer
      match if isRemote then s.ensureRemoteSession opened record else .ok s with
      | .error message => (s, [], .error message)
      | .ok s =>
          let shown := s.showTarget isRemote target
          let requests :=
            if s.activeTarget = some target then []
            else s.leaveRequests ++ shown.joinRequests target
          (shown, requests, .ok)

/-- The clients report a new size; the session they look at is resized. -/
def resize (s : SharedState) (cols rows : Nat) : SharedState × List AuthorityHostIoRequest :=
  if s.lastClientResize = some (cols, rows) then
    (s, [])
  else
    let s := { s with lastClientResize := some (cols, rows) }
    let transport : Option SessionTransport := do
      let target ← s.activeTarget
      let record ← s.sessions.findTarget target
      pure record.address.transport
    if transport = some .remotePeer then
      (s.resizeActiveRemoteSession, [])
    else
      let s := s.resizeActiveLocalSession cols rows
      match s.activeAuthorityHostSessionId with
      | some id => (s, [.resize id "local" cols rows])
      | none => (s, [])

end SharedState

namespace StateLoop

/-! ## Sessions of this server -/

/-- `SharedState::handle_session_exit`, with the notice it sends. -/
def handleSessionExit (l : StateLoop) (env : LoopEnv) (target : String) :
    StateLoop × List Effect :=
  ({ l with shared := l.shared.handleSessionExit env.order target },
    [.catalogChanged (.localTargetExited target)])

def handleLocalSessionChildExit (l : StateLoop) (env : LoopEnv) (target : String) :
    StateLoop × List Effect :=
  let unregister :=
    match rsplitOnce ':' target with
    | some (_, sessionId) => [.hostIo (.unregisterSession sessionId)]
    | none => []
  let exited := l.handleSessionExit env target
  (exited.1, unregister ++ exited.2 ++ [.catalogChanged (.localTargetExited target)])

/-- The IO loop reports a bare session id, which is taken for the session of
this server that has the id now. -/
def handleAuthorityHostSessionExit (l : StateLoop) (env : LoopEnv) (sessionId : String) :
    StateLoop × List Effect :=
  let qualifiedTarget := l.shared.localAuthorityId ++ ":" ++ sessionId
  let exited := l.handleSessionExit env qualifiedTarget
  (exited.1, [.hostIo (.unregisterSession sessionId)] ++ exited.2
    ++ [.catalogChanged (.localTargetExited qualifiedTarget)])

def handleClientConnected (l : StateLoop) (clientId : Nat) : StateLoop × List Effect :=
  ({ l with
    connectedClients := l.connectedClients.insert clientId
    shared := { l.shared with clientCount := (l.shared.clientCount + 1) % 2 ^ 64 } }, [])

/-- A client is gone.  The local console leaves the authority-host session that
is shown, so that a remote viewer can decide its size.  The counter wraps. -/
def handleClientDisconnected (l : StateLoop) (clientId : Nat) : StateLoop × List Effect :=
  let count := if l.shared.clientCount = 0 then 2 ^ 64 - 1 else l.shared.clientCount - 1
  ({ l with
    connectedClients := l.connectedClients.erase clientId
    shared := { l.shared with clientCount := count } },
    l.shared.leaveRequests.map .hostIo)

def handleCreateLocalSession (l : StateLoop) (env : LoopEnv) : StateLoop × List Effect :=
  match l.shared.createLocalSession env.spawned env.shell l.shared.nextLocalSessionId 80 24 with
  | .error _ => (l, [])
  | .ok (shared, _) => ({ l with shared }, [.catalogChanged .localRuntimeChanged])

/-- A shell for a remote viewer.  Its terminal goes to the IO loop; when the
handle cannot be duplicated for it, the record stays behind. -/
def handleCreateAuthorityHostSession (l : StateLoop) (env : LoopEnv) (cols rows : Nat) :
    StateLoop × List Effect :=
  match l.shared.createAuthorityHostSession env.spawned env.shell with
  | .error _ => (l, [])
  | .ok (shared, sessionId, session, _) =>
      if env.ptyCloned then
        ({ l with shared := { shared with
            authorityHostSessions := shared.authorityHostSessions.insert sessionId session } },
          [.hostIo (.registerSession sessionId session.child cols rows),
            .catalogChanged .localRuntimeChanged])
      else
        ({ l with shared }, [])

/-! ## Sessions of peers -/

/-- Tell the worker that reconnects a target to stop. -/
def cancelReconnect (l : StateLoop) (target : String) : StateLoop × List Effect :=
  match l.reconnectHandles.lookup target with
  | none => (l, [])
  | some worker =>
      ({ l with reconnectHandles := l.reconnectHandles.erase target }, [.cancelReconnect worker])

/-- The dial that reaches a node again. -/
def dialRequest (nodeId : String) (info : RemoteNodeConnectionInfo) :
    OutboundNodeSessionRequest where
  nodeId := nodeId
  endpointUri := "tls://" ++ info.host ++ ":" ++ toString info.port
  tlsPinSha256 := if info.tlsPinSha256 = "" then none else some info.tlsPinSha256
  via := info.via

/-- Dial the node again and again, if this server is the one that dials it and
no worker does so yet. -/
def startOutboundDialRetry (l : StateLoop) (nodeId : String) : StateLoop :=
  if (l.outboundDialRetryHandles.lookup nodeId).isSome then
    l
  else
    match l.shared.remoteNodeConnections.lookup nodeId with
    | none => l
    | some info =>
        if info.mode = .outboundDial ∧ l.shared.ingressInternalTx then
          { l with outboundDialRetryHandles :=
              l.outboundDialRetryHandles.insert nodeId (dialRequest nodeId info) }
        else
          l

/-- Show a session as disconnected and discard its viewer. -/
def markSessionOffline (l : StateLoop) (target : String) : StateLoop :=
  { l with shared := { l.shared with
    sessions := l.shared.sessions.setAvailability
      (fun r => r.address.qualifiedTarget == target) .offline
    remoteSessions := l.shared.remoteSessions.erase target } }

/-- Start a worker that opens a new viewer at the last known size. -/
def startReconnect (l : StateLoop) (target : String) (record : ManagedSessionRecord) :
    StateLoop × List Effect :=
  ({ l with
    reconnectHandles := l.reconnectHandles.insert target l.nextWorker
    nextWorker := l.nextWorker + 1 },
    [.startReconnect l.nextWorker record l.shared.clientSize.1 l.shared.clientSize.2])

/-- The transport of a viewer dropped.  Unless its target is being reconnected
already, the record is marked offline and the session and its node are to be
reached again. -/
def handleRemoteSessionDisconnected (l : StateLoop) (target : String) : StateLoop × List Effect :=
  if (l.reconnectHandles.lookup target).isSome then
    (l, [])
  else
    match l.shared.sessions.get target with
    | none => (l.markSessionOffline target, [])
    | some record =>
        let l := l.markSessionOffline target
        let l :=
          if record.address.transport = .remotePeer then
            l.startOutboundDialRetry record.address.authorityId
          else l
        l.startReconnect target record

/-- A worker brings a new viewer.  The handle under the target is dropped,
whichever worker it belongs to. -/
def handleRemoteSessionReconnected (l : StateLoop) (target : String) : StateLoop × List Effect :=
  let shared := { l.shared with
    remoteSessions := l.shared.remoteSessions.insert target { opened := true }
    sessions := l.shared.sessions.setAvailability
      (fun r => r.address.qualifiedTarget == target) .online }
  ({ l with shared, reconnectHandles := l.reconnectHandles.erase target },
    match l.reconnectHandles.lookup target with
    | some worker => [.dropReconnect worker]
    | none => [])

/-- The user closes a session. -/
def handleCloseSession (l : StateLoop) (env : LoopEnv) (target : String) :
    StateLoop × List Effect :=
  let cancelled := l.cancelReconnect target
  let exited := cancelled.1.handleSessionExit env target
  (exited.1, cancelled.2 ++ exited.2)

/-- Dial a node no more, and do not reconnect to it after a restart.  The
snapshot is left alone while the network is down. -/
def forgetNode (l : StateLoop) (env : LoopEnv) (nodeId : String) : StateLoop :=
  { l with
    outboundDialRetryHandles := l.outboundDialRetryHandles.erase nodeId
    snapshot :=
      if l.networkOnline ∧ env.snapshotSaved then l.snapshot.erase nodeId else l.snapshot }

/-- The node that owns a peer's session. -/
def nodeOf (l : StateLoop) (target : String) : Option String :=
  ((l.shared.sessions.get target).filter fun r => r.address.transport == .remotePeer).map
    (·.address.authorityId)

/-- A session is over, whoever says so: it is closed, and its node is neither
dialed again nor remembered. -/
def handleSessionClosed (l : StateLoop) (env : LoopEnv) (target : String) :
    StateLoop × List Effect :=
  let closed := l.handleCloseSession env target
  (match l.nodeOf target with
    | none => closed.1
    | some nodeId => closed.1.forgetNode env nodeId,
    closed.2)

/-- The targets of a node. -/
def targetsOf (l : StateLoop) (nodeId : String) : List String :=
  (l.shared.sessions.values.filter (isOfNode nodeId)).map (·.address.qualifiedTarget)

/-- Do `f` for each target in turn. -/
def forTargets (f : StateLoop → String → StateLoop × List Effect) :
    StateLoop → List String → StateLoop × List Effect
  | l, [] => (l, [])
  | l, target :: targets =>
      let first := f l target
      let rest := forTargets f first.1 targets
      (rest.1, first.2 ++ rest.2)

/-! ## Nodes -/

/-- Show the sessions of a node as disconnected. -/
def markNodeOffline (l : StateLoop) (nodeId : String) : StateLoop :=
  { l with shared := { l.shared with
    sessions := l.shared.sessions.setAvailability (isOfNode nodeId) .offline } }

/-- Probe whether a node this server dials can be reached. -/
def startPeerReachabilityProbe (l : StateLoop) (nodeId : String) : StateLoop :=
  if (l.peerReachabilityHandles.lookup nodeId).isSome then
    l
  else
    match l.shared.remoteNodeConnections.lookup nodeId with
    | none => l
    | some info =>
        if info.mode = .outboundDial then
          { l with peerReachabilityHandles :=
              l.peerReachabilityHandles.insert nodeId (info.host, info.port) }
        else
          l

/-- Wait for a node that dials this server, for a time that depends on whether
it is in reach. -/
def startInboundConnectWait (l : StateLoop) (nodeId : String) : StateLoop :=
  if (l.inboundConnectWaitHandles.lookup nodeId).isSome then
    l
  else
    match l.shared.remoteNodeConnections.lookup nodeId with
    | none => l
    | some info =>
        let timeout := if info.serverCanReachPeer then 120 else 300
        if info.mode = .inboundConnect then
          { l with inboundConnectWaitHandles := l.inboundConnectWaitHandles.insert nodeId timeout }
        else
          l

/-- Ask the ingress server to drop its sessions with the node. -/
def closeIngressSessionsForNode (l : StateLoop) (nodeId : String) : List Effect :=
  if l.shared.ingressInternalTx then [.closeNodeIngressSession nodeId] else []

/-- A node went offline; repeated signals are absorbed.  Its sessions are marked
offline and the workers that reconnect them are cancelled, since new ones are
expected to be started. -/
def handleRemoteNodeOffline (l : StateLoop) (nodeId : String) : StateLoop × List Effect :=
  if nodeId ∈ l.offlineNodes then
    (l, [])
  else
    let l := { l with offlineNodes := nodeId :: l.offlineNodes }
    let cancelled := forTargets cancelReconnect l (l.targetsOf nodeId)
    let l := cancelled.1.markNodeOffline nodeId
    let closed := l.closeIngressSessionsForNode nodeId
    let l := l.startOutboundDialRetry nodeId
    let l := l.startPeerReachabilityProbe nodeId
    let l := l.startInboundConnectWait nodeId
    (l, cancelled.2 ++ closed)

def handleRemoteNodeOnline (l : StateLoop) (nodeId : String) : StateLoop × List Effect :=
  ({ l with
    offlineNodes := l.offlineNodes.filter (· ≠ nodeId)
    outboundDialRetryHandles := l.outboundDialRetryHandles.erase nodeId
    inboundConnectWaitHandles := l.inboundConnectWaitHandles.erase nodeId
    peerReachabilityHandles := l.peerReachabilityHandles.erase nodeId
    lastRetryReset := l.lastRetryReset.erase nodeId }, [])

/-- Replace the worker that dials the node by one that starts at once. -/
def resetOutboundDialRetryWorker (l : StateLoop) (nodeId : String) : StateLoop × List Effect :=
  match l.shared.remoteNodeConnections.lookup nodeId with
  | none => (l, [])
  | some info =>
      if info.mode ≠ .outboundDial then
        (l, [])
      else
        let l := { l with outboundDialRetryHandles := l.outboundDialRetryHandles.erase nodeId }
        (l.startOutboundDialRetry nodeId, l.closeIngressSessionsForNode nodeId)

/-- The node answers again; bursts of this signal count once in five seconds. -/
def handleRemoteNodeReachable (l : StateLoop) (env : LoopEnv) (nodeId : String) :
    StateLoop × List Effect :=
  let shouldReset := ((l.lastRetryReset.lookup nodeId).map fun reset =>
    decide (5000 ≤ env.now - reset)).getD true
  if shouldReset then
    { l with lastRetryReset := l.lastRetryReset.insert nodeId env.now }
      |>.resetOutboundDialRetryWorker nodeId
  else
    (l, [])

/-- The node could not be reached in time: its sessions are given up.  Where it
is and how it was connected stays known. -/
def handleRemoteNodeReconnectFailed (l : StateLoop) (env : LoopEnv) (nodeId : String) :
    StateLoop × List Effect :=
  let closed := forTargets (fun l target => l.handleCloseSession env target) l
    (l.targetsOf nodeId)
  let l := closed.1
  ({ l with
    outboundDialRetryHandles := l.outboundDialRetryHandles.erase nodeId
    inboundConnectWaitHandles := l.inboundConnectWaitHandles.erase nodeId },
    closed.2 ++ l.closeIngressSessionsForNode nodeId)

/-- The network is back: the nodes with offline sessions are dialed at once. -/
def handleNetworkConnectivityChanged (l : StateLoop) (online : Bool) : StateLoop × List Effect :=
  let wasOnline := l.networkOnline
  let l := { l with networkOnline := online }
  if online ∧ ¬ wasOnline then
    let offlineNodeIds := ((l.shared.sessions.values.filter fun r =>
      r.address.transport == .remotePeer && r.availability == .offline).map
      (·.address.authorityId)).dedup
    forTargets resetOutboundDialRetryWorker l offlineNodeIds
  else
    (l, [])

/-! ## Results of connecting and creating -/

/-- Enter the record of a peer's session in place of the one with its id. -/
def enterRemoteRecord (s : SharedState) (record : ManagedSessionRecord) : SharedState :=
  { s with sessions :=
      (s.sessions.retain fun session => session.address.id != record.address.id).insert record }

/-- Remember how the node was connected, if that is known. -/
def recordConnection (s : SharedState) (outcome : RemoteHostConnectedOutcome) : SharedState :=
  match outcome.connectionInfo with
  | some info => s.recordRemoteNodeConnection outcome.authorityNodeId info
  | none => s

def applyRemoteHostConnectOutcome (l : StateLoop) (env : LoopEnv) (profileName : String)
    (activate : Bool) (outcome : RemoteHostConnectedOutcome) : StateLoop :=
  let record := outcome.createdTarget.val
  let shared := enterRemoteRecord (recordConnection l.shared outcome) record
  match shared.ensureRemoteSession env.opened record with
  | .error _ => { l with shared }
  | .ok shared =>
      let shared :=
        if activate then
          { shared with activeTarget := some record.address.qualifiedTarget }
            |>.resizeActiveRemoteSession
        else shared
      { l with
        shared
        snapshot :=
          if env.snapshotSaved then l.snapshot.insert outcome.authorityNodeId profileName
          else l.snapshot }

def handleRemoteHostConnectResult (l : StateLoop) (env : LoopEnv) (profileName : String)
    (result : Except String RemoteHostConnectedOutcome) (activate : Bool) :
    StateLoop × List Effect :=
  match result with
  | .error _ => (l, [])
  | .ok outcome =>
      ({ l with offlineNodes := l.offlineNodes.filter (· ≠ outcome.authorityNodeId) }
        |>.applyRemoteHostConnectOutcome env profileName activate outcome, [])

/-- A host of the snapshot was connected again, or could not be and is dropped
from it.  A session is shown only to clients that wait for it. -/
def handleSnapshotHostReconnectResult (l : StateLoop) (env : LoopEnv)
    (profileName authorityNodeId : String) (result : Except String RemoteHostConnectedOutcome)
    (waiters : Bool) : StateLoop × List Effect :=
  match result with
  | .ok outcome =>
      ({ l with offlineNodes := l.offlineNodes.filter (· ≠ authorityNodeId) }
        |>.applyRemoteHostConnectOutcome env profileName waiters outcome, [])
  | .error _ =>
      let snapshot :=
        if l.networkOnline ∧ env.snapshotSaved then l.snapshot.erase authorityNodeId
        else l.snapshot
      ({ l with snapshot }, [])

def handleRemoteSessionCreateResult (l : StateLoop) (env : LoopEnv)
    (result : Except String RemoteRecord) : StateLoop × List Effect :=
  match result with
  | .error _ => (l, [])
  | .ok ⟨record, _⟩ =>
      let shared := enterRemoteRecord l.shared record
      match shared.ensureRemoteSession env.opened record with
      | .error _ => ({ l with shared }, [])
      | .ok shared =>
          ({ l with shared :=
              { shared with activeTarget := some record.address.qualifiedTarget }
                |>.resizeActiveRemoteSession }, [])

/-! ## The loop -/

/-- Handle one event. -/
def handle (l : StateLoop) (env : LoopEnv) : StateEvent → StateLoop × List Effect
  | .localSessionChildExit target => l.handleLocalSessionChildExit env target
  | .authorityHost event => l.handleAuthorityHostSessionExit env event.sessionId
  | .clientConnected clientId => l.handleClientConnected clientId
  | .clientDisconnected clientId => l.handleClientDisconnected clientId
  | .createLocalSession => l.handleCreateLocalSession env
  | .activateTarget target =>
      let activated := l.shared.activateTarget env.opened target
      ({ l with shared := activated.1 }, activated.2.1.map .hostIo)
  | .resize cols rows =>
      let resized := l.shared.resize cols rows
      ({ l with shared := resized.1 }, resized.2.map .hostIo)
  | .closeSession target => l.handleCloseSession env target
  | .createAuthorityHostSession cols rows => l.handleCreateAuthorityHostSession env cols rows
  | .remoteHostConnectResult profileName result activate =>
      l.handleRemoteHostConnectResult env profileName result activate
  | .snapshotHostReconnectResult profileName authorityNodeId result waiters =>
      l.handleSnapshotHostReconnectResult env profileName authorityNodeId result waiters
  | .remoteSessionCreateResult result => l.handleRemoteSessionCreateResult env result
  | .remoteSessionDisconnected target => l.handleRemoteSessionDisconnected target
  | .remoteSessionReconnected target => l.handleRemoteSessionReconnected target
  | .remoteSessionCatalogUpdated record =>
      ({ l with shared := l.shared.updateRemoteSessionRecord record }, [])
  | .sessionClosed target => l.handleSessionClosed env target
  | .remoteNodeOffline nodeId => l.handleRemoteNodeOffline nodeId
  | .remoteNodeOnline nodeId => l.handleRemoteNodeOnline nodeId
  | .remoteNodeReachable nodeId => l.handleRemoteNodeReachable env nodeId
  | .remoteNodeReconnectFailed nodeId => l.handleRemoteNodeReconnectFailed env nodeId
  | .recordRemoteNodeConnection nodeId info =>
      ({ l with shared := l.shared.recordRemoteNodeConnection nodeId info }, [])
  | .networkConnectivityChanged online => l.handleNetworkConnectivityChanged online

/-- Handle one event, with the answers given while it is handled. -/
def step (l : StateLoop) (turn : LoopEnv × StateEvent) : StateLoop :=
  (l.handle turn.1 turn.2).1

end StateLoop

/-- How a server is started. -/
structure Startup where
  port : Nat
  /-- a server that is nobody's peer starts with a terminal of its own -/
  ownSession : Bool := true
  env : LoopEnv := {}
  ingressInternalTx : Bool := true
  snapshot : HashMap String String := ∅

def Startup.shared (c : Startup) : SharedState :=
  let shared := { port := c.port, ingressInternalTx := c.ingressInternalTx }
  if c.ownSession then
    match shared.createLocalSession c.env.spawned c.env.shell "1" 80 24 with
    | .ok (shared, _) => shared
    | .error _ => shared
  else
    shared

/-- The loop before its first event. -/
def Startup.loop (c : Startup) : StateLoop where
  shared := c.shared
  snapshot := c.snapshot

end WaitAgent.Node
