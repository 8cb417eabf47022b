import WaitAgent.Domain.SessionCatalog

/-!
# Envelopes of the node session protocol

The messages of the publication protocol as they travel between nodes
(`Grpc…`), the control-plane envelopes they are mapped to before they are
applied, and the mapping itself with its error.  Bodies that the modelled
components only pass on are one constructor.
-/

namespace WaitAgent.Remote

open Verified Domain

/-- `google.protobuf.Timestamp`, whose fields are signed. -/
structure Timestamp where
  seconds : Int
  nanos : Int
  deriving DecidableEq, Repr

/-- A clock value in nanoseconds as a wire timestamp. -/
def timestampNow (now : Nat) : Timestamp where
  seconds := (now / 1000000000 : Nat)
  nanos := (now % 1000000000 : Nat)

/-- Where an envelope is to go. -/
structure RouteContext where
  authorityNodeId : Option String := none
  targetId : Option String := none
  attachmentId : Option String := none
  consoleId : Option String := none
  consoleHostId : Option String := none
  sessionId : Option String := none
  deriving DecidableEq, Repr

/-- What a node says about one of its sessions, on the wire. -/
structure GrpcTargetPublished where
  targetId : String
  authorityNodeId : String
  transport : String
  transportSessionId : String
  selector : Option String := none
  availability : String
  commandName : Option String := none
  currentPath : Option String := none
  attachedCount : Option Nat := none
  sessionRole : Option String := none
  workspaceKey : Option String := none
  windowCount : Option Nat := none
  taskState : Option String := none
  nodeInstanceId : String
  revision : Nat
  displayCommandName : Option String := none
  deriving DecidableEq, Repr

/-- A session is gone, on the wire. -/
structure GrpcTargetExited where
  targetId : String
  transportSessionId : String
  nodeInstanceId : String
  revision : Nat
  deriving DecidableEq, Repr

/-- The status on the wire, where it can be missing. -/
inductive GrpcTargetPublicationAckStatus where
  | unspecified
  | applied
  | staleRevision
  | failed
  deriving DecidableEq, Repr

/-- The answer to a publication, on the wire. -/
structure GrpcTargetPublicationAck where
  nodeId : String
  nodeInstanceId : String
  targetId : String
  revision : Nat
  status : GrpcTargetPublicationAckStatus
  message : Option String := none
  deriving DecidableEq, Repr

/-- The body of an envelope. -/
inductive Body where
  | heartbeat
  | targetPublished (payload : GrpcTargetPublished)
  | targetExited (payload : GrpcTargetExited)
  | targetPublicationAck (payload : GrpcTargetPublicationAck)
  /-- output, mirror bootstrap and geometry of a target, which the ingress
  hands on to the bridges of that target -/
  | output (sessionId targetId : String)
  /-- a mirror, input, resize or paste request for a target this node runs -/
  | authorityCommand (targetId : String)
  | createSessionRequest
  /-- hellos, and the answers to requests -/
  | other
  deriving DecidableEq, Repr

/-- An envelope between two nodes; the body can be missing. -/
structure GrpcNodeSessionEnvelope where
  messageId : String
  sentAt : Option Timestamp := none
  sessionInstanceId : String
  correlationId : Option String := none
  route : Option RouteContext := none
  body : Option Body
  deriving DecidableEq, Repr

/-! ## Control-plane envelopes -/

/-- What became of a publication. -/
inductive TargetPublicationAckStatus where
  | applied
  | staleRevision
  | failed
  deriving DecidableEq, Repr

/-- What a node says about one of its sessions. -/
structure TargetPublishedPayload where
  transportSessionId : String
  nodeInstanceId : String
  revision : Nat
  authorityHostSessionName : Option String
  selector : Option String
  availability : String
  sessionRole : Option String
  workspaceKey : Option String
  commandName : Option String
  displayCommandName : Option String
  currentPath : Option String
  attachedClients : Nat
  windowCount : Nat
  taskState : String
  deriving DecidableEq, Repr

/-- A session is gone. -/
structure TargetExitedPayload where
  transportSessionId : String
  nodeInstanceId : String
  revision : Nat
  authorityHostSessionName : Option String
  deriving DecidableEq, Repr

/-- The answer to a publication. -/
structure TargetPublicationAckPayload where
  nodeId : String
  nodeInstanceId : String
  targetId : String
  revision : Nat
  status : TargetPublicationAckStatus
  message : Option String := none
  deriving DecidableEq, Repr

/-- The control-plane payloads of the publication protocol. -/
inductive ControlPlanePayload where
  | targetPublished (payload : TargetPublishedPayload)
  | targetExited (payload : TargetExitedPayload)
  | targetPublicationAck (payload : TargetPublicationAckPayload)
  deriving DecidableEq, Repr

/-- The envelope that the receiver works with. -/
structure ProtocolEnvelope where
  protocolVersion : String
  messageId : String
  messageType : String
  timestamp : String
  senderId : String
  correlationId : Option String
  sessionId : Option String
  targetId : Option String
  attachmentId : Option String
  consoleId : Option String
  payload : ControlPlanePayload
  deriving DecidableEq, Repr

/-- The version that every envelope names. -/
def remoteProtocolVersion : String := "1.1"

/-! ## Reading envelopes -/

/-- The target of the route. -/
def routeTargetId (envelope : GrpcNodeSessionEnvelope) : Option String :=
  envelope.route.bind (·.targetId)

/-- The session of the route. -/
def routeSessionId (envelope : GrpcNodeSessionEnvelope) : Option String :=
  envelope.route.bind (·.sessionId)

/-- The attachment of the route. -/
def routeAttachmentId (envelope : GrpcNodeSessionEnvelope) : Option String :=
  envelope.route.bind (·.attachmentId)

/-- The console of the route. -/
def routeConsoleId (envelope : GrpcNodeSessionEnvelope) : Option String :=
  envelope.route.bind (·.consoleId)

/-- The part of a target id after the last colon, if there is one and it is not
empty.  One of three known heads is removed first. -/
def deriveSessionIdFromTargetId (targetId : String) : Option String :=
  let rest := ((stripPrefix "remote-peer:" targetId).or
    ((stripPrefix "local-tmux:" targetId).or
      (stripPrefix "remote:" targetId))).getD targetId
  match rsplitOnce ':' rest with
  | none => none
  | some (_, sessionId) => if sessionId.isEmpty then none else some sessionId

/-- Nine decimal digits, as the format `:09` prints them. -/
def padNanos (n : Nat) : String :=
  let digits := toString n
  String.ofList (List.replicate (9 - digits.length) '0') ++ digits

/-- When the envelope was sent, or else the clock. -/
def timestampString (envelope : GrpcNodeSessionEnvelope) (nowMillis : Nat) : String :=
  match envelope.sentAt with
  | some timestamp => toString timestamp.seconds ++ "." ++ padNanos timestamp.nanos.toNat ++ "Z"
  | none => toString nowMillis ++ "Z"

/-- The four texts that are accepted. -/
def knownAvailability (value : String) : Except String String :=
  if value = "online" then .ok "online"
  else if value = "offline" then .ok "offline"
  else if value = "exited" then .ok "exited"
  else if value = "unknown" then .ok "unknown"
  else .error ("unsupported grpc target availability \x60" ++ value ++ "\x60")

/-! ## Mapping to control-plane envelopes -/

/-- The envelope fields shared by the three mapped messages. -/
def mapEnvelope (nodeId : String) (envelope : GrpcNodeSessionEnvelope) (nowMillis : Nat)
    (messageType : String) (sessionId : Option String) (payloadTargetId : String)
    (payload : ControlPlanePayload) : ProtocolEnvelope where
  protocolVersion := remoteProtocolVersion
  messageId := envelope.messageId
  messageType := messageType
  timestamp := timestampString envelope nowMillis
  senderId := nodeId
  correlationId := envelope.correlationId
  sessionId := sessionId
  targetId := (routeTargetId envelope).or (some payloadTargetId)
  attachmentId := routeAttachmentId envelope
  consoleId := routeConsoleId envelope
  payload := payload

/-- A publication; roles and task states that are not known are dropped. -/
def mapTargetPublishedEnvelope (nodeId : String) (envelope : GrpcNodeSessionEnvelope)
    (nowMillis : Nat) (payload : GrpcTargetPublished) : Except String ProtocolEnvelope :=
  match knownAvailability payload.availability with
  | .error error => .error error
  | .ok availability =>
      .ok (mapEnvelope nodeId envelope nowMillis "target_published"
        ((routeSessionId envelope).or (deriveSessionIdFromTargetId payload.targetId))
        payload.targetId
        (.targetPublished
          { transportSessionId := payload.transportSessionId
            nodeInstanceId := payload.nodeInstanceId
            revision := payload.revision
            authorityHostSessionName := none
            selector := payload.selector
            availability := availability
            sessionRole := (payload.sessionRole.bind WorkspaceSessionRole.parse).map (·.asStr)
            workspaceKey := payload.workspaceKey
            commandName := payload.commandName
            displayCommandName := payload.displayCommandName
            currentPath := payload.currentPath
            attachedClients := payload.attachedCount.getD 0
            windowCount := payload.windowCount.getD 0
            taskState :=
              ((payload.taskState.bind ManagedSessionTaskState.parse).getD .unknown).asStr }))

/-- An exit. -/
def mapTargetExitedEnvelope (nodeId : String) (envelope : GrpcNodeSessionEnvelope)
    (nowMillis : Nat) (payload : GrpcTargetExited) : ProtocolEnvelope :=
  mapEnvelope nodeId envelope nowMillis "target_exited"
    ((routeSessionId envelope).or (deriveSessionIdFromTargetId payload.targetId))
    payload.targetId
    (.targetExited
      { transportSessionId := payload.transportSessionId
        nodeInstanceId := payload.nodeInstanceId
        revision := payload.revision
        authorityHostSessionName := none })

/-- A status must be there. -/
def targetPublicationAckStatus :
    GrpcTargetPublicationAckStatus → Except String TargetPublicationAckStatus
  | .applied => .ok .applied
  | .staleRevision => .ok .staleRevision
  | .failed => .ok .failed
  | .unspecified => .error "unspecified target publication ack status"

/-- An answer to a publication. -/
def mapTargetPublicationAckEnvelope (nodeId : String) (envelope : GrpcNodeSessionEnvelope)
    (nowMillis : Nat) (payload : GrpcTargetPublicationAck) : Except String ProtocolEnvelope :=
  match targetPublicationAckStatus payload.status with
  | .error error => .error error
  | .ok status =>
      .ok (mapEnvelope nodeId envelope nowMillis "target_publication_ack"
        (routeSessionId envelope) payload.targetId
        (.targetPublicationAck
          { nodeId := payload.nodeId
            nodeInstanceId := payload.nodeInstanceId
            targetId := payload.targetId
            revision := payload.revision
            status := status
            message := payload.message }))

/-- The acknowledgement a source reads from an inbound payload; one without a
status is ignored. -/
def inboundTargetPublicationAck (payload : GrpcTargetPublicationAck) :
    Option TargetPublicationAckPayload :=
  match targetPublicationAckStatus payload.status with
  | .error _ => none
  | .ok status => some
      { nodeId := payload.nodeId
        nodeInstanceId := payload.nodeInstanceId
        targetId := payload.targetId
        revision := payload.revision
        status := status
        message := payload.message }

end WaitAgent.Remote
