import WaitAgent.Remote.Ingress
import WaitAgent.Verified.Run

/-!
# The session-sync loop

`run_remote_session_sync_loop` keeps one outbound session to a peer open and
publishes the local sessions over it.  All its connections report to one event
channel.  The loop dials, serves events until it has to reconnect, waits, and
dials again; its local variables are the state here, and what it takes from its
surroundings is given with each input.
-/

namespace WaitAgent.Remote

open Verified Domain

inductive SessionSyncEvent where
  | transport (event : RemoteNodeTransportEvent)
  | authorityHostOutput
  /-- with the session whose exit is the reason of the change, if it is one -/
  | localCatalogChanged (exited : Option String)
  | retryDue
  | stop
  deriving DecidableEq, Repr

/-- Where the loop is: in `connect_outbound`, in its inner loop, in the wait
after a failed dial or after a lost session, or returned. -/
inductive SyncPhase where
  | dialing
  | serving
  | waitingToDial
  | waitingToReconnect
  | stopped
  deriving DecidableEq, Repr

/-- A running authority host and the session its output goes to. -/
structure AuthorityTargetHost where
  boundSessionInstanceId : String
  host : Nat
  deriving DecidableEq, Repr

/-- What the surroundings answer while the loop handles one event. -/
structure SyncEnv where
  /-- the clock, in nanoseconds -/
  now : Nat := 0
  /-- whether the session's channel takes an envelope -/
  sendOk : GrpcNodeSessionEnvelope → Bool := fun _ => true
  /-- whether the session's channel takes the output of an authority host -/
  outputOk : Bool := true
  /-- the result of listing the local sessions -/
  catalog : Option (List ManagedSessionRecord) := none
  /-- the host of the target after an authority command, if one runs then -/
  hostAfter : Option AuthorityTargetHost := none
  /-- whether a create-session request could be answered -/
  createReplied : Bool := true

structure SyncLoop where
  phase : SyncPhase := .dialing
  publisher : Publisher := {}
  catalog : ObservedCatalog := {}
  publishedSessions : SessionMap := ∅
  publicationDirty : Bool := false
  activeSession : Option RemoteNodeSessionHandle := none
  runningHosts : HashMap String AuthorityTargetHost := ∅

namespace SyncLoop

inductive Input where
  /-- `connect_outbound` returned -/
  | dialed (ok : Bool)
  /-- the loop takes an event from its channel -/
  | event (env : SyncEnv) (event : SessionSyncEvent)
  /-- the delay before the next dial is over -/
  | waitElapsed

/-! ## The tracker of the loop -/

def tracker (s : SyncLoop) : SourcePublicationTracker := s.publisher.tracker

def withTracker (s : SyncLoop) (t : SourcePublicationTracker) : SyncLoop :=
  { s with publisher := { s.publisher with tracker := t } }

/-- The id of the session the loop uses. -/
def currentSession (s : SyncLoop) : Option String :=
  s.activeSession.map (·.sessionInstanceId)

/-- Losing the session: the inner loop ends after this event. -/
def reconnect (s : SyncLoop) : SyncLoop :=
  { s.withTracker s.tracker.onDisconnected with phase := .waitingToReconnect }

def observe (s : SyncLoop) (env : SyncEnv) : SyncLoop × Bool :=
  match s.catalog.observe env.catalog with
  | (catalog, changed) =>
      ({ s with catalog := catalog, publicationDirty := s.publicationDirty || changed }, changed)

/-- `publish_observed_session_catalog`, with what follows it in the loop: when
a send fails the loop reconnects, otherwise nothing is left to publish. -/
def publishObserved (nodeId : String) (env : SyncEnv) (mode : SessionSyncMode) (s : SyncLoop) :
    SyncLoop :=
  match s.activeSession with
  | none => { s with publicationDirty := false }
  | some handle =>
      match publishCurrentLocalSessions nodeId handle.sessionInstanceId env.sendOk env.now mode
          s.publisher s.publishedSessions s.catalog.observed with
      | (c, published, true) =>
          { s with publisher := c, publishedSessions := published, publicationDirty := false }
      | (c, published, false) =>
          { s with publisher := c, publishedSessions := published }.reconnect

theorem publishObserved_none {nodeId : String} {env : SyncEnv} {mode : SessionSyncMode}
    {s : SyncLoop} (hActive : s.activeSession = none) :
    s.publishObserved nodeId env mode = { s with publicationDirty := false } := by
  unfold publishObserved
  split
  · rfl
  · next hSome => rw [hActive] at hSome; cases hSome

/-- Publishing to a session ends with a pass that went through, or with the
session lost. -/
theorem publishObserved_cases {nodeId : String} {env : SyncEnv} {mode : SessionSyncMode}
    {s : SyncLoop} {handle : RemoteNodeSessionHandle} {pass : Publisher × Bool}
    (hActive : s.activeSession = some handle)
    (hPass : publishDelta nodeId handle.sessionInstanceId env.sendOk env.now mode s.publisher
      (computeSessionSyncDelta s.publishedSessions s.catalog.observed mode) = pass) :
    pass.2 = true ∧ s.publishObserved nodeId env mode =
        { s with
          publisher := pass.1
          publishedSessions := s.catalog.observed
          publicationDirty := false } ∨
      pass.2 = false ∧ s.publishObserved nodeId env mode =
        reconnect { s with publisher := pass.1 } := by
  unfold publishObserved publishCurrentLocalSessions
  rw [hActive]
  dsimp only
  rw [hPass]
  rcases pass with ⟨c, _ | _⟩
  · exact .inr ⟨rfl, rfl⟩
  · exact .inl ⟨rfl, rfl⟩

/-! ## Events of the inner loop -/

/-- The session becomes the current one. -/
def connected (s : SyncLoop) (session : RemoteNodeSessionHandle) : SyncLoop :=
  { s.withTracker s.tracker.onConnected with activeSession := some session }

/-- `SessionOpened`: the whole catalog is published to the new session. -/
def sessionOpened (nodeId : String) (env : SyncEnv) (s : SyncLoop)
    (session : RemoteNodeSessionHandle) : SyncLoop :=
  ((s.connected session).observe env).1.publishObserved nodeId env .fullBaseline

/-- `EnvelopeReceived`: without a current session it is dropped. -/
def envelopeReceived (nodeId : String) (env : SyncEnv) (s : SyncLoop)
    (envelope : GrpcNodeSessionEnvelope) : SyncLoop :=
  match s.activeSession, envelope.body with
  | some _, some (.targetPublicationAck payload) =>
      match inboundTargetPublicationAck payload with
      | some ack => s.withTracker (s.tracker.onAck ack).1
      | none => s
  | some _, some (.authorityCommand targetId) =>
      { s with
        runningHosts :=
          match env.hostAfter with
          | some host => s.runningHosts.insert targetId host
          | none => s.runningHosts.erase targetId }
  | some _, some .createSessionRequest =>
      if env.createReplied then
        let observed := s.observe env
        if observed.2 then observed.1.publishObserved nodeId env .delta else observed.1
      else
        s
  | _, _ => s

/-- `SessionClosed` and `TransportFailed`: the id of the event is not read. -/
def sessionLost (s : SyncLoop) : SyncLoop :=
  { s with activeSession := none, runningHosts := ∅ }.reconnect

def handleTransportEvent (nodeId : String) (env : SyncEnv) (s : SyncLoop) :
    RemoteNodeTransportEvent → SyncLoop
  | .sessionOpened session => s.sessionOpened nodeId env session
  | .envelopeReceived _ _ envelope => s.envelopeReceived nodeId env envelope
  | .sessionClosed _ _ => s.sessionLost
  | .transportFailed _ _ => s.sessionLost

/-- `handle_local_target_exited`: the host of an exited session is dropped. -/
def handleLocalTargetExited (nodeId : String) (s : SyncLoop) (qualifiedTarget : String) :
    SyncLoop :=
  match rsplitOnce ':' qualifiedTarget with
  | none => s
  | some (_, sessionId) =>
      { s with runningHosts := s.runningHosts.erase (nodeId ++ ":" ++ sessionId) }

def dropExitedHost (nodeId : String) (s : SyncLoop) : Option String → SyncLoop
  | some target => s.handleLocalTargetExited nodeId target
  | none => s

/-- Only the hosts can change. -/
theorem dropExitedHost_eq (nodeId : String) (s : SyncLoop) (exited : Option String) :
    ∃ hosts, s.dropExitedHost nodeId exited = { s with runningHosts := hosts } := by
  unfold dropExitedHost handleLocalTargetExited
  split
  · split
    · exact ⟨s.runningHosts, rfl⟩
    · exact ⟨_, rfl⟩
  · exact ⟨s.runningHosts, rfl⟩

def retryDue (env : SyncEnv) (s : SyncLoop) : SyncLoop :=
  match s.activeSession with
  | none => s
  | some _ =>
      match s.publisher.sendPendingSourcePublications env.sendOk env.now
          (s.tracker.dueRetryPublications env.now) with
      | (c, true) => { s with publisher := c }
      | (c, false) => { s with publisher := c }.reconnect

/-- One event in the inner loop. -/
def serve (nodeId : String) (env : SyncEnv) (s : SyncLoop) : SessionSyncEvent → SyncLoop
  | .transport event => s.handleTransportEvent nodeId env event
  | .retryDue => s.retryDue env
  | .authorityHostOutput =>
      if s.activeSession.isSome && !env.outputOk then s.reconnect else s
  | .localCatalogChanged exited =>
      let s := ((s.dropExitedHost nodeId exited).observe env).1
      if s.activeSession.isSome && s.publicationDirty then
        s.publishObserved nodeId env .delta
      else
        s
  | .stop => { s with phase := .stopped }

/-! ## The whole loop -/

/-- The end of an iteration: hosts are shut down, and the loop dials again with
no current session. -/
def redial (s : SyncLoop) : SyncLoop :=
  { s with phase := .dialing, activeSession := none, runningHosts := ∅ }

/-- Events while the loop waits: a catalog change ends the wait, and all
transport events are dropped. -/
def waitEvent (nodeId : String) (env : SyncEnv) (s : SyncLoop) (ofSession : Bool) :
    SessionSyncEvent → SyncLoop
  | .stop => { s with phase := .stopped }
  | .localCatalogChanged exited =>
      let s := if ofSession then s.dropExitedHost nodeId exited else s
      (s.observe env).1.redial
  | _ => s

/-- Nothing is sent or acknowledged during the wait. -/
theorem publisher_waitEvent (nodeId : String) (env : SyncEnv) (s : SyncLoop) (ofSession : Bool)
    (event : SessionSyncEvent) :
    (s.waitEvent nodeId env ofSession event).publisher = s.publisher := by
  unfold waitEvent
  split
  · rfl
  · next exited =>
    cases ofSession with
    | false => rfl
    | true =>
      obtain ⟨hosts, hEq⟩ := dropExitedHost_eq nodeId s exited
      simp only [↓reduceIte, hEq]
      rfl
  · rfl

def step (nodeId : String) (s : SyncLoop) : Input → SyncLoop
  | .dialed ok =>
      if s.phase = .dialing then
        if ok then
          { s with phase := .serving, activeSession := none, runningHosts := ∅ }
        else
          { s.withTracker s.tracker.onDisconnected with phase := .waitingToDial }
      else
        s
  | .event env event =>
      match s.phase with
      | .serving => s.serve nodeId env event
      | .waitingToDial => s.waitEvent nodeId env false event
      | .waitingToReconnect => s.waitEvent nodeId env true event
      | _ => s
  | .waitElapsed =>
      match s.phase with
      | .waitingToDial | .waitingToReconnect => s.redial
      | _ => s

end SyncLoop

end WaitAgent.Remote
