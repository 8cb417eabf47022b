import WaitAgent.Remote.Protocol
import WaitAgent.Verified.Lines

/-!
# Sessions discovered from a peer's envelopes

A peer publishes its sessions with envelopes.  Each gives a record, whose
authority is the sender of the envelope, or the address of a session that is
gone.
-/

namespace WaitAgent.Remote

open Domain Verified

/-- What a text was parsed to, if it is known. -/
def supported {α : Type} (what value : String) : Option α → Except String α
  | some parsed => .ok parsed
  | none => .error ("unsupported remote target " ++ what ++ " \x60" ++ value ++ "\x60")

/-- The record of a session that a peer has published. -/
def publishedRemoteTargetRecordFromPayload (authorityId : String)
    (payload : TargetPublishedPayload) : Except String ManagedSessionRecord := do
  let availability ← supported "availability" payload.availability
    (SessionAvailability.parse payload.availability)
  let sessionRole ← payload.sessionRole.mapM fun value =>
    supported "session role" value (WorkspaceSessionRole.parse value)
  let taskState ← supported "task state" payload.taskState
    (ManagedSessionTaskState.parse payload.taskState)
  return {
    address := ⟨.remotePeer, authorityId, payload.transportSessionId⟩
    selector := payload.selector
    availability
    workspaceKey := payload.workspaceKey
    sessionRole
    attachedClients := payload.attachedClients
    windowCount := payload.windowCount
    commandName := payload.commandName
    displayCommandName := payload.displayCommandName
    currentPath := payload.currentPath
    taskState }

/-- What an envelope of a peer says about its sessions. -/
structure DiscoveredRemoteSessionEnvelopeEffect where
  publishedSession : Option ManagedSessionRecord := none
  /-- the authority and the id of a session that is gone -/
  exitedSession : Option (String × String) := none
  deriving DecidableEq, Repr

def discoveredRemoteSessionFromEnvelope (authorityId : String) (envelope : ProtocolEnvelope) :
    Except String DiscoveredRemoteSessionEnvelopeEffect :=
  match envelope.payload with
  | .targetPublished payload => do
      let session ← publishedRemoteTargetRecordFromPayload envelope.senderId payload
      return { publishedSession := some session }
  | .targetExited payload =>
      .ok { exitedSession := some (authorityId, payload.transportSessionId) }
  | .targetPublicationAck _ => .ok {}

/-- What is known of every record that was published: it is a peer's, and has
only what a payload carries. -/
structure IsPublished (authorityId : String) (payload : TargetPublishedPayload)
    (session : ManagedSessionRecord) : Prop where
  address : session.address = ⟨.remotePeer, authorityId, payload.transportSessionId⟩
  workspaceDir : session.workspaceDir = none
  openedBy : session.openedBy = []
  agentCommandName : session.agentCommandName = none
  attachedClients : session.attachedClients = payload.attachedClients
  windowCount : session.windowCount = payload.windowCount

theorem isPublished_of_payload {authorityId : String} {payload : TargetPublishedPayload}
    {session : ManagedSessionRecord}
    (h : publishedRemoteTargetRecordFromPayload authorityId payload = .ok session) :
    IsPublished authorityId payload session := by
  unfold publishedRemoteTargetRecordFromPayload at h
  obtain ⟨availability, -, h⟩ := bind_eq_ok.mp h
  obtain ⟨sessionRole, -, h⟩ := bind_eq_ok.mp h
  obtain ⟨taskState, -, h⟩ := bind_eq_ok.mp h
  obtain rfl := Except.ok.inj h
  exact ⟨rfl, rfl, rfl, rfl, rfl, rfl⟩

end WaitAgent.Remote
