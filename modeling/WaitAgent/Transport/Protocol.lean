import WaitAgent.Domain.SessionCatalog

/-!
# The control-plane messages of the transport

The payloads of the control plane with all their fields, and the envelope around
them.  Numbers have the widths of the source; a `usize` is 64 bits wide.  A text
that the source holds as `&'static str` is a text here: which texts can be read
back is a question about the codec.
-/

namespace WaitAgent.Transport

open Domain

/-- The first message of a node that connects. -/
structure ClientHelloPayload where
  nodeId : String
  clientVersion : String
  deriving DecidableEq

/-- The answer to it. -/
structure ServerHelloPayload where
  serverId : String
  serverVersion : String
  acceptedProtocolVersion : String
  heartbeatIntervalMs : UInt64
  sessionRecoveryPolicy : String
  deriving DecidableEq

/-- How much of a screen a mirror starts with. -/
inductive BootstrapMode where
  | full
  | visibleOnly
  deriving DecidableEq

/-- A console asks for the screen of a target. -/
structure OpenMirrorRequestPayload where
  sessionId : String
  targetId : String
  consoleId : String
  cols : UInt64
  rows : UInt64
  rawPtyPassthrough : Bool
  bootstrapMode : BootstrapMode
  deriving DecidableEq

/-- The mirror is open. -/
structure OpenMirrorAcceptedPayload where
  sessionId : String
  targetId : String
  availability : String
  deriving DecidableEq

/-- The mirror is refused; the code is one of the static texts. -/
structure OpenMirrorRejectedPayload where
  sessionId : String
  targetId : String
  code : String
  message : String
  deriving DecidableEq

/-- A console has left the screen of a target. -/
structure CloseMirrorRequestPayload where
  sessionId : String
  targetId : String
  deriving DecidableEq

/-- A numbered part of what a mirror starts with. -/
structure MirrorBootstrapChunkPayload where
  sessionId : String
  targetId : String
  chunkSeq : UInt64
  stream : String
  outputBytes : List UInt8
  deriving DecidableEq

/-- The last part was sent; the modes that its bytes do not show. -/
structure MirrorBootstrapCompletePayload where
  sessionId : String
  targetId : String
  lastChunkSeq : UInt64
  alternateScreenActive : Bool
  applicationCursorKeys : Bool
  cursorVisible : Bool
  deriving DecidableEq

/-- A target is attached; who may resize it, and its screen so far. -/
structure OpenTargetOkPayload where
  sessionId : String
  targetId : String
  attachmentId : String
  consoleId : String
  resizeEpoch : UInt64
  resizeAuthorityConsoleId : String
  resizeAuthorityHostId : String
  availability : String
  initialSnapshot : Option String
  deriving DecidableEq

/-- A target is not attached. -/
structure OpenTargetRejectedPayload where
  sessionId : String
  targetId : String
  consoleId : String
  code : String
  message : String
  deriving DecidableEq

/-- Another console may resize the target from this epoch on. -/
structure ResizeAuthorityChangedPayload where
  sessionId : String
  targetId : String
  resizeEpoch : UInt64
  resizeAuthorityConsoleId : String
  resizeAuthorityHostId : String
  cols : Option UInt64
  rows : Option UInt64
  deriving DecidableEq

/-- Numbered bytes for the terminal of a target. -/
structure RawPtyInputPayload where
  attachmentId : String
  sessionId : String
  targetId : String
  consoleId : String
  consoleHostId : String
  inputSeq : UInt64
  inputBytes : List UInt8
  deriving DecidableEq

/-- A chunk of a pasted file. -/
structure PasteFileRequestPayload where
  sessionId : String
  targetId : String
  filenameHint : String
  fileId : String
  totalChunks : UInt32
  chunkIndex : UInt32
  chunkBytes : List UInt8
  deriving DecidableEq

/-- Numbered output of a target, with its stream. -/
structure TargetOutputPayload where
  sessionId : String
  targetId : String
  outputSeq : UInt64
  stream : String
  outputBytes : List UInt8
  deriving DecidableEq

/-- Numbered bytes from the terminal of a target. -/
structure RawPtyOutputPayload where
  sessionId : String
  targetId : String
  outputSeq : UInt64
  outputBytes : List UInt8
  deriving DecidableEq

/-- The console with the authority asks for a size. -/
structure ApplyResizePayload where
  sessionId : String
  targetId : String
  resizeEpoch : UInt64
  resizeAuthorityConsoleId : String
  cols : UInt64
  rows : UInt64
  deriving DecidableEq

/-- The size that was set. -/
structure ResizeAppliedPayload where
  sessionId : String
  targetId : String
  resizeEpoch : UInt64
  resizeAuthorityConsoleId : String
  cols : UInt64
  rows : UInt64
  deriving DecidableEq

/-- The target has another size. -/
structure TargetGeometryChangedPayload where
  sessionId : String
  targetId : String
  cols : UInt64
  rows : UInt64
  deriving DecidableEq

/-- A node asks another one for a new session. -/
structure CreateSessionRequestPayload where
  requestId : String
  authorityNodeId : String
  cwdHint : Option String
  cols : UInt64
  rows : UInt64
  deriving DecidableEq

/-- The session that was made for a request. -/
structure CreateSessionAcceptedPayload where
  requestId : String
  sessionId : String
  targetId : String
  deriving DecidableEq

/-- No session was made. -/
structure CreateSessionRejectedPayload where
  requestId : String
  code : String
  message : String
  deriving DecidableEq

/-- What a node says about one of its sessions. -/
structure TargetPublishedPayload where
  transportSessionId : String
  nodeInstanceId : String
  revision : UInt64
  authorityHostSessionName : Option String
  selector : Option String
  availability : String
  sessionRole : Option String
  workspaceKey : Option String
  commandName : Option String
  displayCommandName : Option String
  currentPath : Option String
  attachedClients : UInt64
  windowCount : UInt64
  taskState : String
  deriving DecidableEq

/-- A session is gone. -/
structure TargetExitedPayload where
  transportSessionId : String
  nodeInstanceId : String
  revision : UInt64
  authorityHostSessionName : Option String
  deriving DecidableEq

/-- What became of a publication. -/
inductive TargetPublicationAckStatus where
  | applied
  | staleRevision
  | failed
  deriving DecidableEq

/-- The receiver of a publication answers for its revision. -/
structure TargetPublicationAckPayload where
  nodeId : String
  nodeInstanceId : String
  targetId : String
  revision : UInt64
  status : TargetPublicationAckStatus
  message : Option String
  deriving DecidableEq

/-- A failure that belongs to no request. -/
structure ErrorPayload where
  code : String
  message : String
  details : Option String
  deriving DecidableEq

/-- The messages of the control plane. -/
inductive ControlPlanePayload where
  | clientHello (payload : ClientHelloPayload)
  | serverHello (payload : ServerHelloPayload)
  | openMirrorRequest (payload : OpenMirrorRequestPayload)
  | openMirrorAccepted (payload : OpenMirrorAcceptedPayload)
  | openMirrorRejected (payload : OpenMirrorRejectedPayload)
  | closeMirrorRequest (payload : CloseMirrorRequestPayload)
  | mirrorBootstrapChunk (payload : MirrorBootstrapChunkPayload)
  | mirrorBootstrapComplete (payload : MirrorBootstrapCompletePayload)
  | openTargetOk (payload : OpenTargetOkPayload)
  | openTargetRejected (payload : OpenTargetRejectedPayload)
  | resizeAuthorityChanged (payload : ResizeAuthorityChangedPayload)
  | rawPtyInput (payload : RawPtyInputPayload)
  | pasteFileRequest (payload : PasteFileRequestPayload)
  | targetOutput (payload : TargetOutputPayload)
  | rawPtyOutput (payload : RawPtyOutputPayload)
  | applyResize (payload : ApplyResizePayload)
  | resizeApplied (payload : ResizeAppliedPayload)
  | targetGeometryChanged (payload : TargetGeometryChangedPayload)
  | createSessionRequest (payload : CreateSessionRequestPayload)
  | createSessionAccepted (payload : CreateSessionAcceptedPayload)
  | createSessionRejected (payload : CreateSessionRejectedPayload)
  | targetPublished (payload : TargetPublishedPayload)
  | targetExited (payload : TargetExitedPayload)
  | targetPublicationAck (payload : TargetPublicationAckPayload)
  | error (payload : ErrorPayload)
  deriving DecidableEq

/-- The name of a message, which is not on the wire. -/
def ControlPlanePayload.messageType : ControlPlanePayload → String
  | .clientHello _ => "client_hello"
  | .serverHello _ => "server_hello"
  | .openMirrorRequest _ => "open_mirror_request"
  | .openMirrorAccepted _ => "open_mirror_accepted"
  | .openMirrorRejected _ => "open_mirror_rejected"
  | .closeMirrorRequest _ => "close_mirror_request"
  | .mirrorBootstrapChunk _ => "mirror_bootstrap_chunk"
  | .mirrorBootstrapComplete _ => "mirror_bootstrap_complete"
  | .openTargetOk _ => "open_target_ok"
  | .openTargetRejected _ => "open_target_rejected"
  | .resizeAuthorityChanged _ => "resize_authority_changed"
  | .rawPtyInput _ => "raw_pty_input"
  | .pasteFileRequest _ => "paste_file_request"
  | .targetOutput _ => "target_output"
  | .rawPtyOutput _ => "raw_pty_output"
  | .applyResize _ => "apply_resize"
  | .resizeApplied _ => "resize_applied"
  | .targetGeometryChanged _ => "target_geometry_changed"
  | .createSessionRequest _ => "create_session_request"
  | .createSessionAccepted _ => "create_session_accepted"
  | .createSessionRejected _ => "create_session_rejected"
  | .targetPublished _ => "target_published"
  | .targetExited _ => "target_exited"
  | .targetPublicationAck _ => "target_publication_ack"
  | .error _ => "error"

/-- What is around every message: who sent it, and what it is about. -/
structure ProtocolEnvelope (P : Type) where
  protocolVersion : String
  messageId : String
  messageType : String
  timestamp : String
  senderId : String
  correlationId : Option String
  sessionId : Option String
  targetId : Option String
  attachmentId : Option String
  consoleId : Option String
  payload : P
  deriving DecidableEq

/-- The version that every envelope names. -/
def remoteProtocolVersion : String := "1.1"

/-! ## Envelopes the program builds -/

/-- The envelope of `send_payload_with_correlation`, the `number`-th of the session. -/
def sessionEnvelope (nodeId scope timestamp : String) (number : Nat)
    (correlationId sessionId targetId : Option String) (payload : ControlPlanePayload) :
    ProtocolEnvelope ControlPlanePayload where
  protocolVersion := remoteProtocolVersion
  messageId := s!"{nodeId}-{scope}-{number}"
  messageType := payload.messageType
  timestamp := timestamp
  senderId := nodeId
  correlationId := correlationId
  sessionId := sessionId
  targetId := targetId
  attachmentId := none
  consoleId := none
  payload := payload

/-- The payload of `send_target_published`. -/
def targetPublishedPayload (target : ManagedSessionRecord)
    (authorityHostSessionName : Option String) : TargetPublishedPayload where
  nodeInstanceId := ""
  revision := 0
  transportSessionId := target.address.sessionId
  authorityHostSessionName := authorityHostSessionName
  selector := target.selector
  availability := target.availability.asStr
  sessionRole := target.sessionRole.map WorkspaceSessionRole.asStr
  workspaceKey := target.workspaceKey
  commandName := target.commandName
  displayCommandName := target.displayCommandName
  currentPath := target.currentPath
  attachedClients := UInt64.ofNat target.attachedClients
  windowCount := UInt64.ofNat target.windowCount
  taskState := target.taskState.asStr

/-- What an authority host is asked to do. -/
inductive RemoteAuthorityCommand where
  | openMirror (payload : OpenMirrorRequestPayload)
  | closeMirror (payload : CloseMirrorRequestPayload)
  | rawPtyInput (payload : RawPtyInputPayload)
  | pasteFile (payload : PasteFileRequestPayload)
  | applyResize (payload : ApplyResizePayload)
  | syncRequest (expectedSeq receivedSeq : UInt64)
  | heartbeatPing
  deriving DecidableEq

namespace RemoteAuthorityCommand

/-- The session of a command; the two local ones have none. -/
def sessionId : RemoteAuthorityCommand → Option String
  | .openMirror payload => some payload.sessionId
  | .closeMirror payload => some payload.sessionId
  | .rawPtyInput payload => some payload.sessionId
  | .pasteFile payload => some payload.sessionId
  | .applyResize payload => some payload.sessionId
  | .syncRequest _ _ | .heartbeatPing => none

/-- The message for a command; the two local ones are never sent. -/
def payload : RemoteAuthorityCommand → ControlPlanePayload
  | .openMirror payload => .openMirrorRequest payload
  | .closeMirror payload => .closeMirrorRequest payload
  | .rawPtyInput payload => .rawPtyInput payload
  | .pasteFile payload => .pasteFileRequest payload
  | .applyResize payload => .applyResize payload
  | .syncRequest _ _ | .heartbeatPing =>
      .error {
        code := "local_sync_request_not_routable"
        message := "sync request is local to authority transport"
        details := none }

end RemoteAuthorityCommand

/-- The sender of the commands. -/
def sessionSyncAuthorityId : String := "waitagent-session-sync-authority"

/-- The envelope in which a command goes to an authority host; the clock is read
twice. -/
def authorityCommandEnvelope (idMillis timestampMillis : Nat) (command : RemoteAuthorityCommand) :
    ProtocolEnvelope ControlPlanePayload where
  protocolVersion := remoteProtocolVersion
  messageId := s!"session-sync-authority-{idMillis}"
  messageType := command.payload.messageType
  timestamp := s!"{timestampMillis}Z"
  senderId := sessionSyncAuthorityId
  correlationId := none
  sessionId := command.sessionId
  targetId := none
  attachmentId := none
  consoleId := none
  payload := command.payload

end WaitAgent.Transport
