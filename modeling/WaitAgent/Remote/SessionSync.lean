import WaitAgent.Remote.SourceTracker

/-!
# Publishing the local session catalog

How the catalog of local sessions is observed, compared with what was published
last, and turned into publications.  Both the session-sync loop and the ingress
server publish through these functions.
-/

namespace WaitAgent.Remote

open Verified Domain

/-- The sessions of a catalog by the id of their address. -/
abbrev SessionMap := HashMap String ManagedSessionRecord

def localSessionsByLocalId (sessions : List ManagedSessionRecord) : SessionMap :=
  AList.collect (sessions.map fun session => (session.address.id, session))

/-- Listing the sessions may fail; only local ones are observed. -/
def observeCurrentLocalSessions (catalog : Option (List ManagedSessionRecord)) :
    Option SessionMap :=
  catalog.map fun sessions =>
    localSessionsByLocalId (sessions.filter fun s => s.address.transport == .localNode)

/-- What a loop remembers of the local catalog. -/
structure ObservedCatalog where
  observed : SessionMap := ∅
  initialized : Bool := false

/-- `observe_local_session_catalog`: the flag says whether anything changed. -/
def ObservedCatalog.observe (o : ObservedCatalog)
    (catalog : Option (List ManagedSessionRecord)) : ObservedCatalog × Bool :=
  match observeCurrentLocalSessions catalog with
  | none => (o, false)
  | some current =>
      let changed := !o.initialized || !decide (AList.SameEntries o.observed current)
      ({ observed := current, initialized := true }, changed)

/-! ## What is to be published -/

inductive SessionSyncMode where
  | delta
  | fullBaseline
  deriving DecidableEq, Repr

def SessionSyncMode.publicationMode : SessionSyncMode → SourcePublicationMode
  | .delta => .delta
  | .fullBaseline => .fullBaseline

def isInteractiveShellState (session : ManagedSessionRecord) : Bool :=
  session.commandName.any (shellNames.contains ·)
    && (session.taskState == .input || session.taskState == .running)

/-- Records that differ in nothing a peer should hear of. -/
def sessionRecordsEquivalentForSync (previous current : ManagedSessionRecord) : Bool :=
  let normalize := isInteractiveShellState previous && isInteractiveShellState current
    && previous.taskState == current.taskState
  let clear := fun (r : ManagedSessionRecord) =>
    if normalize then { r with taskState := .input } else r
  clear previous == clear current

structure SessionSyncDelta where
  publish : List ManagedSessionRecord
  exit : List ManagedSessionRecord

/-- The full baseline publishes every current session; a delta only those that
changed.  Sessions that were published and are gone have exited. -/
def computeSessionSyncDelta (previous current : SessionMap) (mode : SessionSyncMode) :
    SessionSyncDelta where
  publish := current.entries.filterMap fun e =>
    if mode = .delta ∧
        ((previous.lookup e.1).any fun p => sessionRecordsEquivalentForSync p e.2) then
      none
    else
      some e.2
  exit := previous.entries.filterMap fun e =>
    if e.1 ∈ current then none else some e.2

/-! ## Publishing it -/

/-- The publications of `publish_current_local_sessions`: first the changed
states, then the exits, until a send fails. -/
def publishDelta (nodeId sessionInstanceId : String) (sendOk : GrpcNodeSessionEnvelope → Bool)
    (now : Nat) (mode : SessionSyncMode) (c : Publisher) (delta : SessionSyncDelta) :
    Publisher × Bool :=
  match c.forEach (Publisher.publishState nodeId sessionInstanceId sendOk now
      mode.publicationMode) delta.publish with
  | (c, false) => (c, false)
  | (c, true) =>
      c.forEach (fun c previous => c.publishExit nodeId sessionInstanceId sendOk now
        previous.address.sessionId) delta.exit

section

variable {nodeId inst : String} {sendOk : GrpcNodeSessionEnvelope → Bool} {now : Nat}
  {mode : SessionSyncMode} {c : Publisher} {delta : SessionSyncDelta} {I : Publisher → Prop}

theorem publishDelta_invariant
    (hState : ∀ c, ∀ s ∈ delta.publish, I c →
      I (c.publishState nodeId inst sendOk now mode.publicationMode s).1)
    (hExit : ∀ c, ∀ s ∈ delta.exit, I c →
      I (c.publishExit nodeId inst sendOk now s.address.sessionId).1)
    (hc : I c) : I (publishDelta nodeId inst sendOk now mode c delta).1 := by
  have hStates := Publisher.forEach_invariant delta.publish hState c hc
  unfold publishDelta
  split
  · next c' hEq =>
    rw [hEq] at hStates
    exact hStates
  · next c' hEq =>
    rw [hEq] at hStates
    exact Publisher.forEach_invariant delta.exit hExit c' hStates

theorem connected_publishDelta :
    (publishDelta nodeId inst sendOk now mode c delta).1.tracker.connected
      = c.tracker.connected :=
  publishDelta_invariant (I := fun c' => c'.tracker.connected = c.tracker.connected)
    (fun c' session _ hc => (c'.connected_publishState _ _ _ _ _ session).trans hc)
    (fun c' _ _ hc => (c'.connected_publishExit _ _ _ _ _).trans hc) rfl

/-- A pass that went through is two loops that did. -/
theorem publishDelta_true (h : (publishDelta nodeId inst sendOk now mode c delta).2 = true) :
    (c.forEach (Publisher.publishState nodeId inst sendOk now mode.publicationMode)
      delta.publish).2 = true ∧
    publishDelta nodeId inst sendOk now mode c delta =
      (c.forEach (Publisher.publishState nodeId inst sendOk now mode.publicationMode)
        delta.publish).1.forEach (fun c previous => c.publishExit nodeId inst sendOk now
          previous.address.sessionId) delta.exit := by
  unfold publishDelta at h ⊢
  split at h
  · cases h
  · next c' hEq => simp [hEq]

end

/-- `publish_current_local_sessions`: what was published last is replaced only
when every send went through. -/
def publishCurrentLocalSessions (nodeId sessionInstanceId : String)
    (sendOk : GrpcNodeSessionEnvelope → Bool) (now : Nat) (mode : SessionSyncMode)
    (c : Publisher) (published observed : SessionMap) : Publisher × SessionMap × Bool :=
  match publishDelta nodeId sessionInstanceId sendOk now mode c
      (computeSessionSyncDelta published observed mode) with
  | (c, true) => (c, observed, true)
  | (c, false) => (c, published, false)

end WaitAgent.Remote
