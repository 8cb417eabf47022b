import WaitAgent.Remote.Receiver

/-!
# The ingress server

The single loop that owns a node's side of all node sessions: sessions by their
instance id, the instance ids that were closed, the guards that keep outbound
connections alive, and the receiver's revision table.  Each function handles
one event; `Env` gives the answers of its surroundings, and `log` collects what
it did outside of its state.
-/

namespace WaitAgent.Remote

open Verified Domain

/-- What a node transport reports. -/
inductive RemoteNodeTransportEvent where
  | sessionOpened (session : RemoteNodeSessionHandle)
  | envelopeReceived (nodeId sessionInstanceId : String) (envelope : GrpcNodeSessionEnvelope)
  | sessionClosed (nodeId sessionInstanceId : String)
  | transportFailed (nodeId sessionInstanceId : Option String)
  deriving DecidableEq, Repr

/-- The internal events that change the ingress state.  `AuthorityCommandReceived` and
`AuthorityHostOutput` are left out: they send to a live session of the node, or mark a node
without one as offline once more. -/
inductive InternalEvent where
  | bridgeClosed (nodeId endpoint : String)
  | authoritySocketReady (nodeId endpoint : String)
  | registerWorkspaceSocket (socketName : String)
  | unregisterWorkspaceSocket (socketName : String)
  /-- a change of the socket directory, or a retry of the discovery -/
  | refreshSockets
  | localCatalogChanged
  | initiateOutboundConnection (nodeId : String)
  | closeNodeIngressSession (nodeId : String) (cancelPendingDial : Bool)
  deriving DecidableEq, Repr

inductive IngressServerEvent where
  | transport (event : RemoteNodeTransportEvent)
  | internal (event : InternalEvent)
  deriving DecidableEq, Repr

/-- The guard of an outbound connection; dropping it closes the connection. -/
structure GrpcRemoteNodeTransportGuard where
  connection : Nat
  deriving DecidableEq, Repr

structure Ingress where
  sessions : HashMap String ActiveNodeIngressSession := ∅
  registeredWorkspaceSockets : Finset String := ∅
  publicationRevisions : ReceiverPublicationRevisionTable := {}
  closedSessionInstances : Finset String := ∅
  outboundGuards : HashMap String GrpcRemoteNodeTransportGuard := ∅
  pendingOutboundGuards : HashMap String GrpcRemoteNodeTransportGuard := ∅
  pendingOutboundDials : Finset String := ∅
  /-- everything done outside of the state so far, oldest first -/
  log : List IngressEffect := []

/-- Sessions younger than this, in nanoseconds, survive an eviction. -/
def sessionEvictionGrace : Nat := 30000000000

/-- Connect the authority sockets that have no bridge in this session yet. -/
def refreshAuthorityBridges (env : Env) (nodeId : String)
    (active : ActiveNodeIngressSession) : ActiveNodeIngressSession :=
  { active with
    bridges := (env.connects nodeId).foldl
      (fun bridges c => if c.1 ∈ bridges then bridges else bridges.insert c.1 c.2)
      active.bridges }

/-- The part of a session that publishes the local catalog to the peer. -/
def ActiveNodeIngressSession.publisher (active : ActiveNodeIngressSession) : Publisher where
  tracker := active.sourcePublicationTracker
  nextMessageId := active.nextMessageId

def ActiveNodeIngressSession.withPublisher (active : ActiveNodeIngressSession)
    (c : Publisher) : ActiveNodeIngressSession :=
  { active with sourcePublicationTracker := c.tracker, nextMessageId := c.nextMessageId }

/-- `publish_local_catalog_baseline`: publish every observed session. -/
def publishLocalCatalogBaseline (env : Env) (active : ActiveNodeIngressSession) :
    ActiveNodeIngressSession :=
  let catalog := (active.catalog.observe env.catalog).1
  match active.publisher.forEach
      (Publisher.publishState active.session.nodeId active.session.sessionInstanceId env.sendOk
        env.now .fullBaseline) catalog.observed.values with
  | (c, true) =>
      { active.withPublisher c with catalog := catalog, publishedSessions := catalog.observed }
  | (c, false) => { active.withPublisher c with catalog := catalog }

/-- `publish_local_catalog_delta`: publish what changed, if anything did. -/
def publishLocalCatalogDelta (env : Env) (active : ActiveNodeIngressSession) :
    ActiveNodeIngressSession :=
  match active.catalog.observe env.catalog with
  | (catalog, false) => { active with catalog := catalog }
  | (catalog, true) =>
      match publishCurrentLocalSessions active.session.nodeId active.session.sessionInstanceId
          env.sendOk env.now .delta active.publisher active.publishedSessions
          catalog.observed with
      | (c, published, _) =>
          { active.withPublisher c with catalog := catalog, publishedSessions := published }

namespace Ingress

def hasActiveIngressSessionForNode (s : Ingress) (nodeId : String) : Bool :=
  s.sessions.values.any fun active => active.session.nodeId == nodeId

def markDiscoveredNodeOfflineIfLastIngressSession (s : Ingress) (nodeId : String) : Ingress :=
  if s.hasActiveIngressSessionForNode nodeId then
    s
  else
    { s with log := s.log ++ [.nodeOffline nodeId] }

/-- Forget a session: its entry with its bridges, and its guard. -/
def removeSession (s : Ingress) (sessionInstanceId : String) : Ingress :=
  { s with
    sessions := s.sessions.erase sessionInstanceId
    closedSessionInstances := insert sessionInstanceId s.closedSessionInstances
    outboundGuards := s.outboundGuards.erase sessionInstanceId }

/-! ## Transport events -/

def handleSessionOpened (env : Env) (s : Ingress) (session : RemoteNodeSessionHandle) :
    Ingress :=
  let id := session.sessionInstanceId
  let wasOffline := !s.hasActiveIngressSessionForNode session.nodeId
  -- a guard that waits for this node is taken to be the guard of this session
  let outboundGuards :=
    match s.pendingOutboundGuards.lookup session.nodeId with
    | some guard => s.outboundGuards.insert id guard
    | none => s.outboundGuards
  let active : ActiveNodeIngressSession :=
    { session := session
      sourcePublicationTracker := SourcePublicationTracker.onConnected {}
      openedAt := env.now }
  let active := refreshAuthorityBridges env session.nodeId (publishLocalCatalogBaseline env active)
  { s with
    closedSessionInstances := s.closedSessionInstances.erase id
    outboundGuards := outboundGuards
    pendingOutboundGuards := s.pendingOutboundGuards.erase session.nodeId
    sessions := s.sessions.insert id active
    log := s.log ++ if wasOffline then [.nodeOnline session.nodeId] else [] }

/-- `handle_target_publication_ack`: the session's tracker sees the
acknowledgement, then it is applied like a publication. -/
def handleTargetPublicationAck (env : Env) (nodeId : String)
    (envelope : GrpcNodeSessionEnvelope) (payload : GrpcTargetPublicationAck)
    (session : Option ActiveNodeIngressSession) (table : ReceiverPublicationRevisionTable) :
    Handled :=
  match mapTargetPublicationAckEnvelope nodeId envelope env.nowMillis payload with
  | .error error =>
      { session := session, table := table, effects := []
        result := .error (remoteNodeIngressError error) }
  | .ok mapped =>
      let session :=
        match mapped.payload with
        | .targetPublicationAck ack => session.map fun active =>
            { active with
              sourcePublicationTracker := (active.sourcePublicationTracker.onAck ack).1 }
        | _ => session
      { session := session, table := table
        effects := [.applied nodeId mapped none (env.applyResult matches .ok ())]
        result := env.applyResult }

/-- `route_transport_envelope`. -/
def routeTransportEnvelope (printable : Char → Bool) (env : Env) (nodeId : String)
    (envelope : GrpcNodeSessionEnvelope) (session : Option ActiveNodeIngressSession)
    (sockets : Finset String) (table : ReceiverPublicationRevisionTable) : Handled :=
  match envelope.body with
  | some (.targetPublished payload) =>
      handleTargetPublished printable env nodeId envelope payload session table
  | some (.targetPublicationAck payload) =>
      handleTargetPublicationAck env nodeId envelope payload session table
  | some (.targetExited payload) =>
      handleTargetExited env nodeId envelope payload session sockets table
  | some (.output sessionId targetId) =>
      let sessionId := ((routeSessionId envelope).or
        (payloadSessionId sessionId targetId)).getD targetId
      { session := session.map (bridgeOutputToAuthorityTransports env nodeId sessionId)
        table := table, effects := [], result := .ok () }
  | _ => { session := session, table := table, effects := [], result := .ok () }

/-- An envelope of a closed session is dropped; one of an unknown session is
still routed, without a session. -/
def handleEnvelopeReceived (printable : Char → Bool) (env : Env) (s : Ingress)
    (nodeId sessionInstanceId : String) (envelope : GrpcNodeSessionEnvelope) : Ingress :=
  if sessionInstanceId ∈ s.closedSessionInstances then
    s
  else
    let handled := routeTransportEnvelope printable env nodeId envelope
      (s.sessions.lookup sessionInstanceId) s.registeredWorkspaceSockets s.publicationRevisions
    { s with
      sessions :=
        match handled.session with
        | some active => s.sessions.insert sessionInstanceId active
        | none => s.sessions
      publicationRevisions := handled.table
      log := s.log ++ handled.effects }

def handleTransportEvent (printable : Char → Bool) (env : Env) (s : Ingress) :
    RemoteNodeTransportEvent → Ingress
  | .sessionOpened session => handleSessionOpened env s session
  | .envelopeReceived nodeId sessionInstanceId envelope =>
      handleEnvelopeReceived printable env s nodeId sessionInstanceId envelope
  | .sessionClosed nodeId sessionInstanceId =>
      let s := s.removeSession sessionInstanceId
      { s with pendingOutboundGuards := s.pendingOutboundGuards.erase nodeId }
        |>.markDiscoveredNodeOfflineIfLastIngressSession nodeId
  | .transportFailed nodeId sessionInstanceId =>
      let s :=
        match sessionInstanceId with
        | some id => s.removeSession id
        | none => s
      match nodeId with
      | some nodeId =>
          { s with pendingOutboundGuards := s.pendingOutboundGuards.erase nodeId }
            |>.markDiscoveredNodeOfflineIfLastIngressSession nodeId
      | none => s

/-! ## Internal events -/

/-- The sessions of a node that are old enough to be evicted at `now`. -/
def evictedInstanceIds (s : Ingress) (now : Nat) (nodeId : String) : List String :=
  s.sessions.entries.filterMap fun e =>
    if e.2.session.nodeId = nodeId ∧ sessionEvictionGrace ≤ now - e.2.openedAt then
      some e.1
    else
      none

def closeIngressSessionsForNode (env : Env) (s : Ingress) (nodeId : String)
    (cancelPendingDial : Bool) : Ingress :=
  let hadPending := decide (nodeId ∈ s.pendingOutboundGuards) ||
    decide (nodeId ∈ s.pendingOutboundDials)
  let s :=
    if cancelPendingDial then
      { s with
        pendingOutboundDials := s.pendingOutboundDials.erase nodeId
        pendingOutboundGuards := s.pendingOutboundGuards.erase nodeId }
    else
      s
  let removed := s.evictedInstanceIds env.now nodeId
  let s := removed.foldl removeSession s
  if !removed.isEmpty || hadPending then
    s.markDiscoveredNodeOfflineIfLastIngressSession nodeId
  else
    s

/-- Update the sessions of one node, or of every node, in place. -/
def updateSessions (s : Ingress) (p : ActiveNodeIngressSession → Bool)
    (f : ActiveNodeIngressSession → ActiveNodeIngressSession) : Ingress :=
  { s with sessions := s.sessions.mapValues fun _ active => if p active then f active else active }

def handleInternalEvent (env : Env) (s : Ingress) : InternalEvent → Ingress
  | .bridgeClosed nodeId endpoint =>
      s.updateSessions (fun active => active.session.nodeId == nodeId) fun active =>
        { active with bridges := active.bridges.erase endpoint }
  | .authoritySocketReady nodeId endpoint =>
      s.updateSessions (fun active => active.session.nodeId == nodeId) fun active =>
        refreshAuthorityBridges
          { env with connects := fun n => (env.connects n).filter (·.1 == endpoint) }
          nodeId active
  | .registerWorkspaceSocket socketName =>
      { s with registeredWorkspaceSockets := insert socketName s.registeredWorkspaceSockets }
  | .unregisterWorkspaceSocket socketName =>
      { s with registeredWorkspaceSockets := s.registeredWorkspaceSockets.erase socketName }
  | .refreshSockets =>
      s.updateSessions (fun _ => true) fun active =>
        refreshAuthorityBridges env active.session.nodeId active
  | .localCatalogChanged => s.updateSessions (fun _ => true) (publishLocalCatalogDelta env)
  | .initiateOutboundConnection nodeId =>
      -- one dial at a time, and none while a session is open
      if s.hasActiveIngressSessionForNode nodeId || decide (nodeId ∈ s.pendingOutboundDials) then
        s
      else
        { s with pendingOutboundDials := insert nodeId s.pendingOutboundDials }
  | .closeNodeIngressSession nodeId cancelPendingDial =>
      closeIngressSessionsForNode env s nodeId cancelPendingDial

def handleEvent (printable : Char → Bool) (env : Env) (s : Ingress) : IngressServerEvent → Ingress
  | .transport event => handleTransportEvent printable env s event
  | .internal event => handleInternalEvent env s event

/-- A finished dial: its guard waits for the session it opened. -/
def drainOutboundGuard (s : Ingress) (nodeId : String)
    (result : Option GrpcRemoteNodeTransportGuard) : Ingress :=
  let s := { s with pendingOutboundDials := s.pendingOutboundDials.erase nodeId }
  match result with
  | some guard => { s with pendingOutboundGuards := s.pendingOutboundGuards.insert nodeId guard }
  | none => s

/-- What one turn of the loop takes in: an event, or a finished dial. -/
inductive Input where
  | event (env : Env) (event : IngressServerEvent)
  | guard (nodeId : String) (result : Option GrpcRemoteNodeTransportGuard)

def step (printable : Char → Bool) (s : Ingress) : Input → Ingress
  | .event env event => s.handleEvent printable env event
  | .guard nodeId result => s.drainOutboundGuard nodeId result

/-! ## What leaves the publications alone

Only received envelopes touch the revision table or acknowledge anything; all
other inputs keep the table and add nothing but node signals to the log. -/

/-- The log grew by signals about nodes only. -/
def OnlySignals (before after : List IngressEffect) : Prop :=
  ∃ signals, after = before ++ signals ∧
    ∀ e ∈ signals, (∃ n, e = .nodeOnline n) ∨ (∃ n, e = .nodeOffline n)

theorem OnlySignals.refl (log : List IngressEffect) : OnlySignals log log :=
  ⟨[], by simp, by simp⟩

/-- Neither the table nor the publications of the log changed. -/
def PublicationsUntouched (s s' : Ingress) : Prop :=
  s'.publicationRevisions = s.publicationRevisions ∧ OnlySignals s.log s'.log

theorem PublicationsUntouched.refl (s : Ingress) : PublicationsUntouched s s :=
  ⟨rfl, OnlySignals.refl _⟩

theorem markOffline_untouched {s s' : Ingress} (nodeId : String)
    (hTable : s'.publicationRevisions = s.publicationRevisions) (hLog : s'.log = s.log) :
    PublicationsUntouched s (s'.markDiscoveredNodeOfflineIfLastIngressSession nodeId) := by
  unfold markDiscoveredNodeOfflineIfLastIngressSession
  split
  · exact ⟨hTable, by rw [hLog]; exact OnlySignals.refl _⟩
  · exact ⟨hTable, [.nodeOffline nodeId], by rw [hLog], by simp⟩

theorem removeSessions_untouched (ids : List String) (s : Ingress) :
    (ids.foldl removeSession s).publicationRevisions = s.publicationRevisions ∧
      (ids.foldl removeSession s).log = s.log := by
  induction ids generalizing s with
  | nil => exact ⟨rfl, rfl⟩
  | cons id ids ih => exact ih (s.removeSession id)

theorem handleInternalEvent_untouched (env : Env) (s : Ingress) (event : InternalEvent) :
    PublicationsUntouched s (s.handleInternalEvent env event) := by
  cases event with
  | closeNodeIngressSession nodeId cancelPendingDial =>
    simp only [handleInternalEvent, closeIngressSessionsForNode]
    generalize hCancel : (if cancelPendingDial then
      ({ s with
        pendingOutboundDials := s.pendingOutboundDials.erase nodeId
        pendingOutboundGuards := s.pendingOutboundGuards.erase nodeId } : Ingress) else s)
      = cancelled
    have hSame : cancelled.publicationRevisions = s.publicationRevisions ∧
        cancelled.log = s.log := by
      subst hCancel
      split <;> exact ⟨rfl, rfl⟩
    obtain ⟨hTable, hLog⟩ :=
      removeSessions_untouched (cancelled.evictedInstanceIds env.now nodeId) cancelled
    rw [hSame.1] at hTable
    rw [hSame.2] at hLog
    split
    · exact markOffline_untouched nodeId hTable hLog
    · exact ⟨hTable, by rw [hLog]; exact OnlySignals.refl _⟩
  | initiateOutboundConnection nodeId =>
    simp only [handleInternalEvent]
    split <;> exact ⟨rfl, OnlySignals.refl _⟩
  | _ => exact ⟨rfl, OnlySignals.refl _⟩

/-- Transport events other than envelopes leave the publications alone. -/
theorem handleTransportEvent_untouched (printable : Char → Bool) (env : Env) (s : Ingress)
    {event : RemoteNodeTransportEvent}
    (hEvent : ∀ nodeId id envelope, event ≠ .envelopeReceived nodeId id envelope) :
    PublicationsUntouched s (s.handleTransportEvent printable env event) := by
  cases event with
  | envelopeReceived nodeId id envelope => exact absurd rfl (hEvent nodeId id envelope)
  | sessionOpened session =>
    refine ⟨rfl, _, rfl, fun e he => ?_⟩
    split at he
    · exact Or.inl ⟨session.nodeId, by simpa using he⟩
    · simp at he
  | sessionClosed nodeId id => exact markOffline_untouched nodeId rfl rfl
  | transportFailed nodeId id =>
    simp only [handleTransportEvent]
    cases id <;> cases nodeId <;>
      first
      | exact markOffline_untouched _ rfl rfl
      | exact ⟨rfl, OnlySignals.refl _⟩

/-- Every input other than a received envelope leaves the publications alone. -/
theorem step_untouched (printable : Char → Bool) (s : Ingress) {input : Input}
    (hInput : ∀ env nodeId id envelope,
      input ≠ .event env (.transport (.envelopeReceived nodeId id envelope))) :
    PublicationsUntouched s (s.step printable input) := by
  cases input with
  | guard nodeId result =>
    cases result <;> exact ⟨rfl, OnlySignals.refl _⟩
  | event env event =>
    cases event with
    | internal event => exact handleInternalEvent_untouched env s event
    | transport event =>
      refine handleTransportEvent_untouched printable env s fun nodeId id envelope hEq => ?_
      exact hInput env nodeId id envelope (by rw [hEq])

end Ingress

end WaitAgent.Remote
