import WaitAgent.Transport.Protocol
import WaitAgent.Verified.Utf8
import WaitAgent.Verified.Wire

/-!
# The transport codec

Writers and readers of control-plane envelopes and of the frames of an authority
connection, field by field.  A length is 32 bits wide and the writer refuses what
is longer.  The texts that the source holds as `&'static str` are written like any
other and read through a table of known values.

The readers take their bytes from a stream in pieces; when the stream ends too
early they fail like `read_exact`.
-/

namespace WaitAgent.Transport

open Verified Domain

/-- The one kind of `io::Error` that a reader of bytes can meet. -/
inductive ErrorKind where
  | unexpectedEof
  deriving DecidableEq, Repr

/-- An error with the kind of its cause, if it is one of the stream. -/
structure RemoteTransportCodecError where
  message : String
  ioKind : Option ErrorKind
  deriving DecidableEq, Repr

/-- An error of the codec itself. -/
def RemoteTransportCodecError.new (message : String) : RemoteTransportCodecError :=
  ⟨message, none⟩

/-- The error of `read_exact` at the end of the stream. -/
def RemoteTransportCodecError.endOfStream : RemoteTransportCodecError :=
  ⟨"failed to fill whole buffer", some .unexpectedEof⟩

/-- The bytes of a value, or why there are none. -/
abbrev Written := Except RemoteTransportCodecError (List UInt8)

/-- A reader that takes its bytes from a stream. -/
abbrev Reader := ByteReader RemoteTransportCodecError

/-- `read_exact` into a buffer of `n` bytes. -/
def readExactly (n : Nat) : Reader (List UInt8) :=
  readExact .endOfStream n

/-! ## Numbers -/

/-- One byte. -/
def writeU8 (value : UInt8) : Written :=
  .ok [value]

/-- One byte. -/
def readU8 : Reader UInt8 := do
  return UInt8.ofNat (leValue (← readExactly 1))

/-- Four bytes, the least first. -/
def writeU32 (value : UInt32) : Written :=
  .ok (leBytes 4 value.toNat)

/-- Four bytes, the least first. -/
def readU32 : Reader UInt32 := do
  return UInt32.ofNat (leValue (← readExactly 4))

/-- Eight bytes, the least first. -/
def writeU64 (value : UInt64) : Written :=
  .ok (leBytes 8 value.toNat)

/-- Eight bytes, the least first. -/
def readU64 : Reader UInt64 := do
  return UInt64.ofNat (leValue (← readExactly 8))

-- `usize` and `u64` are the same here, so neither conversion can fail

/-- A `usize` is written as a `u64`. -/
def writeUsize (value : UInt64) : Written :=
  writeU64 value

/-- A `usize` is read as a `u64`. -/
def readUsize : Reader UInt64 :=
  readU64

/-- A byte that is 0 or 1. -/
def writeBool (value : Bool) : Written :=
  writeU8 (if value then 1 else 0)

/-- Any other byte is an error. -/
def readBool : Reader Bool := do
  match ← readU8 with
  | 0 => return false
  | 1 => return true
  | other => throw (.new s!"invalid bool tag `{other}`")

/-! ## Texts -/

/-- The length, then the bytes. -/
def writeBytes (value : List UInt8) : Written :=
  if value.length < 4294967296 then
    writeAll [writeU32 (UInt32.ofNat value.length), .ok value]
  else
    .error (.new "bytes too long for transport frame")

/-- The length, then as many bytes. -/
def readBytes : Reader (List UInt8) := do
  let len ← readU32
  readExactly len.toNat

/-- The bytes of a text. -/
def writeString (value : String) : Written :=
  writeBytes (utf8Bytes value.toList)

/-- `String::from_utf8` of the bytes that were read. -/
def checkUtf8 (bytes : List UInt8) : Reader String :=
  match fromUtf8 bytes with
  | .ok chars => return String.ofList chars
  | .error _ => throw (.new "transport frame contained invalid utf-8")

/-- The bytes must be UTF-8. -/
def readString : Reader String := do
  let bytes ← readBytes
  checkUtf8 bytes

/-- Any text is written. -/
def writeStaticString (value : String) : Written :=
  writeString value

/-- The values `read_known_static_string` knows. -/
def knownStaticStrings : List String :=
  ["online", "offline", "exited", "unknown_target", "target_offline", "mirror_not_available",
    "unauthorized", "pty", "stdout", "stderr", "test", "republish_live_targets",
    "resize_denied", "target_not_opened", "attachment_not_open", "attachment_closed",
    "create_session_failed", "workspace-chrome", "target-host"]

/-- Only the known ones are read. -/
def readKnownStaticString : Reader String := do
  let value ← readString
  if value ∈ knownStaticStrings then
    return value
  else
    throw (.new s!"unknown static transport string `{value}`")

/-- Only the names of task states are read. -/
def readTaskState : Reader String := do
  let value ← readString
  match ManagedSessionTaskState.parse value with
  | some state => return state.asStr
  | none => throw (.new s!"unknown task state string `{value}`")

/-- A status is a tag. -/
def writeTargetPublicationAckStatus (status : TargetPublicationAckStatus) : Written :=
  writeU8 (match status with
    | .applied => 1
    | .staleRevision => 2
    | .failed => 3)

/-- Any other tag is an error. -/
def readTargetPublicationAckStatus : Reader TargetPublicationAckStatus := do
  match ← readU8 with
  | 1 => return .applied
  | 2 => return .staleRevision
  | 3 => return .failed
  | other => throw (.new s!"unknown target publication ack status `{other}`")

/-! ## Optional fields -/

/-- A tag, and the value if there is one. -/
def writeOptional {α : Type} (write : α → Written) : Option α → Written
  | some value => writeAll [writeU8 1, write value]
  | none => writeU8 0

/-- A tag, and the value behind it; `kind` is for the error. -/
def readOptional {α : Type} (kind : String) (read : Reader α) : Reader (Option α) := do
  match ← readU8 with
  | 0 => return none
  | 1 => return some (← read)
  | other => throw (.new s!"invalid {kind} tag `{other}`")

/-- An optional text. -/
def writeOptionalString : Option String → Written :=
  writeOptional writeString

/-- An optional text. -/
def readOptionalString : Reader (Option String) :=
  readOptional "optional-string" readString

/-- It is written like any other text. -/
def writeOptionalStaticString : Option String → Written :=
  writeOptionalString

/-- It must be a known one. -/
def readOptionalStaticString : Reader (Option String) :=
  readOptional "optional-static-string" readKnownStaticString

/-- An optional `usize`. -/
def writeOptionalUsize : Option UInt64 → Written :=
  writeOptional writeUsize

/-- An optional `usize`. -/
def readOptionalUsize : Reader (Option UInt64) :=
  readOptional "optional-usize" readUsize

/-! ## Payloads -/

/-- The fields in order. -/
def writeRawPtyInputPayload (p : RawPtyInputPayload) : Written :=
  writeAll [writeString p.attachmentId, writeString p.sessionId, writeString p.targetId,
    writeString p.consoleId, writeString p.consoleHostId, writeU64 p.inputSeq,
    writeBytes p.inputBytes]

/-- The fields in order. -/
def readRawPtyInputPayload : Reader RawPtyInputPayload := do
  return {
    attachmentId := ← readString, sessionId := ← readString, targetId := ← readString,
    consoleId := ← readString, consoleHostId := ← readString, inputSeq := ← readU64,
    inputBytes := ← readBytes }

/-- The fields in order. -/
def writeRawPtyOutputPayload (p : RawPtyOutputPayload) : Written :=
  writeAll [writeString p.sessionId, writeString p.targetId, writeU64 p.outputSeq,
    writeBytes p.outputBytes]

/-- The fields in order. -/
def readRawPtyOutputPayload : Reader RawPtyOutputPayload := do
  return {
    sessionId := ← readString, targetId := ← readString, outputSeq := ← readU64,
    outputBytes := ← readBytes }

/-- A tag, then the fields in order. -/
def writePayload : ControlPlanePayload → Written
  | .clientHello p =>
      writeAll [writeU8 1, writeString p.nodeId, writeString p.clientVersion]
  | .serverHello p =>
      writeAll [writeU8 2, writeString p.serverId, writeString p.serverVersion,
        writeString p.acceptedProtocolVersion, writeU64 p.heartbeatIntervalMs,
        writeStaticString p.sessionRecoveryPolicy]
  | .openMirrorRequest p =>
      writeAll [writeU8 12, writeString p.sessionId, writeString p.targetId,
        writeString p.consoleId, writeUsize p.cols, writeUsize p.rows,
        writeBool p.rawPtyPassthrough, writeBool (p.bootstrapMode = .visibleOnly)]
  | .openMirrorAccepted p =>
      writeAll [writeU8 13, writeString p.sessionId, writeString p.targetId,
        writeStaticString p.availability]
  | .openMirrorRejected p =>
      writeAll [writeU8 14, writeString p.sessionId, writeString p.targetId,
        writeStaticString p.code, writeString p.message]
  | .closeMirrorRequest p =>
      writeAll [writeU8 15, writeString p.sessionId, writeString p.targetId]
  | .mirrorBootstrapChunk p =>
      writeAll [writeU8 16, writeString p.sessionId, writeString p.targetId, writeU64 p.chunkSeq,
        writeStaticString p.stream, writeBytes p.outputBytes]
  | .mirrorBootstrapComplete p =>
      writeAll [writeU8 17, writeString p.sessionId, writeString p.targetId,
        writeU64 p.lastChunkSeq, writeBool p.alternateScreenActive,
        writeBool p.applicationCursorKeys, writeBool p.cursorVisible]
  | .openTargetOk p =>
      writeAll [writeU8 3, writeString p.sessionId, writeString p.targetId,
        writeString p.attachmentId, writeString p.consoleId, writeU64 p.resizeEpoch,
        writeString p.resizeAuthorityConsoleId, writeString p.resizeAuthorityHostId,
        writeStaticString p.availability, writeOptionalString p.initialSnapshot]
  | .openTargetRejected p =>
      writeAll [writeU8 4, writeString p.sessionId, writeString p.targetId,
        writeString p.consoleId, writeStaticString p.code, writeString p.message]
  | .resizeAuthorityChanged p =>
      writeAll [writeU8 5, writeString p.sessionId, writeString p.targetId,
        writeU64 p.resizeEpoch, writeString p.resizeAuthorityConsoleId,
        writeString p.resizeAuthorityHostId, writeOptionalUsize p.cols, writeOptionalUsize p.rows]
  | .rawPtyInput p =>
      writeAll [writeU8 18, writeRawPtyInputPayload p]
  | .pasteFileRequest p =>
      writeAll [writeU8 80, writeString p.targetId, writeString p.sessionId,
        writeString p.filenameHint, writeString p.fileId, writeU32 p.totalChunks,
        writeU32 p.chunkIndex, writeBytes p.chunkBytes]
  | .targetOutput p =>
      writeAll [writeU8 7, writeString p.sessionId, writeString p.targetId, writeU64 p.outputSeq,
        writeStaticString p.stream, writeBytes p.outputBytes]
  | .rawPtyOutput p =>
      writeAll [writeU8 19, writeRawPtyOutputPayload p]
  | .applyResize p =>
      writeAll [writeU8 8, writeString p.sessionId, writeString p.targetId,
        writeU64 p.resizeEpoch, writeString p.resizeAuthorityConsoleId, writeUsize p.cols,
        writeUsize p.rows]
  | .resizeApplied p =>
      writeAll [writeU8 20, writeString p.sessionId, writeString p.targetId,
        writeU64 p.resizeEpoch, writeString p.resizeAuthorityConsoleId, writeUsize p.cols,
        writeUsize p.rows]
  | .targetGeometryChanged p =>
      writeAll [writeU8 21, writeString p.sessionId, writeString p.targetId, writeUsize p.cols,
        writeUsize p.rows]
  | .createSessionRequest p =>
      writeAll [writeU8 70, writeString p.requestId, writeString p.authorityNodeId,
        writeOptionalString p.cwdHint, writeUsize p.cols, writeUsize p.rows]
  | .createSessionAccepted p =>
      writeAll [writeU8 71, writeString p.requestId, writeString p.sessionId,
        writeString p.targetId]
  | .createSessionRejected p =>
      writeAll [writeU8 72, writeString p.requestId, writeStaticString p.code,
        writeString p.message]
  | .targetPublished p =>
      writeAll [writeU8 9, writeString p.transportSessionId, writeString p.nodeInstanceId,
        writeU64 p.revision, writeOptionalString p.authorityHostSessionName,
        writeOptionalString p.selector, writeStaticString p.availability,
        writeOptionalStaticString p.sessionRole, writeOptionalString p.workspaceKey,
        writeOptionalString p.commandName, writeOptionalString p.displayCommandName,
        writeOptionalString p.currentPath, writeUsize p.attachedClients, writeUsize p.windowCount,
        writeString p.taskState]
  | .targetExited p =>
      writeAll [writeU8 10, writeString p.transportSessionId, writeString p.nodeInstanceId,
        writeU64 p.revision, writeOptionalString p.authorityHostSessionName]
  | .targetPublicationAck p =>
      writeAll [writeU8 73, writeString p.nodeId, writeString p.nodeInstanceId,
        writeString p.targetId, writeU64 p.revision, writeTargetPublicationAckStatus p.status,
        writeOptionalString p.message]
  | .error p =>
      writeAll [writeU8 11, writeStaticString p.code, writeString p.message,
        writeOptionalString p.details]

/-- What stands behind the tag of a payload. -/
def readPayloadBody (tag : UInt8) : Reader ControlPlanePayload := do
  match tag with
  | 1 =>
      return .clientHello {
        nodeId := ← readString, clientVersion := ← readString }
  | 2 =>
      return .serverHello {
        serverId := ← readString, serverVersion := ← readString,
        acceptedProtocolVersion := ← readString, heartbeatIntervalMs := ← readU64,
        sessionRecoveryPolicy := ← readKnownStaticString }
  | 12 =>
      return .openMirrorRequest {
        sessionId := ← readString, targetId := ← readString, consoleId := ← readString,
        cols := ← readUsize, rows := ← readUsize, rawPtyPassthrough := ← readBool,
        bootstrapMode := if ← readBool then .visibleOnly else .full }
  | 13 =>
      return .openMirrorAccepted {
        sessionId := ← readString, targetId := ← readString,
        availability := ← readKnownStaticString }
  | 14 =>
      return .openMirrorRejected {
        sessionId := ← readString, targetId := ← readString, code := ← readKnownStaticString,
        message := ← readString }
  | 15 =>
      return .closeMirrorRequest {
        sessionId := ← readString, targetId := ← readString }
  | 16 =>
      return .mirrorBootstrapChunk {
        sessionId := ← readString, targetId := ← readString, chunkSeq := ← readU64,
        stream := ← readKnownStaticString, outputBytes := ← readBytes }
  | 17 =>
      return .mirrorBootstrapComplete {
        sessionId := ← readString, targetId := ← readString, lastChunkSeq := ← readU64,
        alternateScreenActive := ← readBool, applicationCursorKeys := ← readBool,
        cursorVisible := ← readBool }
  | 3 =>
      return .openTargetOk {
        sessionId := ← readString, targetId := ← readString, attachmentId := ← readString,
        consoleId := ← readString, resizeEpoch := ← readU64,
        resizeAuthorityConsoleId := ← readString, resizeAuthorityHostId := ← readString,
        availability := ← readKnownStaticString, initialSnapshot := ← readOptionalString }
  | 4 =>
      return .openTargetRejected {
        sessionId := ← readString, targetId := ← readString, consoleId := ← readString,
        code := ← readKnownStaticString, message := ← readString }
  | 5 =>
      return .resizeAuthorityChanged {
        sessionId := ← readString, targetId := ← readString, resizeEpoch := ← readU64,
        resizeAuthorityConsoleId := ← readString, resizeAuthorityHostId := ← readString,
        cols := ← readOptionalUsize, rows := ← readOptionalUsize }
  | 18 => return .rawPtyInput (← readRawPtyInputPayload)
  | 80 =>
      return .pasteFileRequest {
        targetId := ← readString, sessionId := ← readString, filenameHint := ← readString,
        fileId := ← readString, totalChunks := ← readU32, chunkIndex := ← readU32,
        chunkBytes := ← readBytes }
  | 7 =>
      return .targetOutput {
        sessionId := ← readString, targetId := ← readString, outputSeq := ← readU64,
        stream := ← readKnownStaticString, outputBytes := ← readBytes }
  | 19 => return .rawPtyOutput (← readRawPtyOutputPayload)
  | 8 =>
      return .applyResize {
        sessionId := ← readString, targetId := ← readString, resizeEpoch := ← readU64,
        resizeAuthorityConsoleId := ← readString, cols := ← readUsize, rows := ← readUsize }
  | 20 =>
      return .resizeApplied {
        sessionId := ← readString, targetId := ← readString, resizeEpoch := ← readU64,
        resizeAuthorityConsoleId := ← readString, cols := ← readUsize, rows := ← readUsize }
  | 21 =>
      return .targetGeometryChanged {
        sessionId := ← readString, targetId := ← readString, cols := ← readUsize,
        rows := ← readUsize }
  | 70 =>
      return .createSessionRequest {
        requestId := ← readString, authorityNodeId := ← readString,
        cwdHint := ← readOptionalString, cols := ← readUsize, rows := ← readUsize }
  | 71 =>
      return .createSessionAccepted {
        requestId := ← readString, sessionId := ← readString, targetId := ← readString }
  | 72 =>
      return .createSessionRejected {
        requestId := ← readString, code := ← readKnownStaticString, message := ← readString }
  | 9 =>
      return .targetPublished {
        transportSessionId := ← readString, nodeInstanceId := ← readString, revision := ← readU64,
        authorityHostSessionName := ← readOptionalString, selector := ← readOptionalString,
        availability := ← readKnownStaticString, sessionRole := ← readOptionalStaticString,
        workspaceKey := ← readOptionalString, commandName := ← readOptionalString,
        displayCommandName := ← readOptionalString, currentPath := ← readOptionalString,
        attachedClients := ← readUsize, windowCount := ← readUsize, taskState := ← readTaskState }
  | 10 =>
      return .targetExited {
        transportSessionId := ← readString, nodeInstanceId := ← readString, revision := ← readU64,
        authorityHostSessionName := ← readOptionalString }
  | 73 =>
      return .targetPublicationAck {
        nodeId := ← readString, nodeInstanceId := ← readString, targetId := ← readString,
        revision := ← readU64, status := ← readTargetPublicationAckStatus,
        message := ← readOptionalString }
  | 11 =>
      return .error {
        code := ← readKnownStaticString, message := ← readString,
        details := ← readOptionalString }
  | other => throw (.new s!"unknown control-plane payload tag `{other}`")

/-- A tag, then the fields that belong to it. -/
def readPayload : Reader ControlPlanePayload := do
  readPayloadBody (← readU8)

/-! ## Envelopes -/

/-- The fields but `messageType`, then the payload. -/
def writeControlPlaneEnvelope (envelope : ProtocolEnvelope ControlPlanePayload) : Written :=
  writeAll [writeString envelope.protocolVersion, writeString envelope.messageId,
    writeString envelope.timestamp, writeString envelope.senderId,
    writeOptionalString envelope.correlationId, writeOptionalString envelope.sessionId,
    writeOptionalString envelope.targetId, writeOptionalString envelope.attachmentId,
    writeOptionalString envelope.consoleId, writePayload envelope.payload]

/-- An envelope; its `messageType` follows from the payload. -/
def readControlPlaneEnvelope : Reader (ProtocolEnvelope ControlPlanePayload) := do
  let protocolVersion ← readString
  let messageId ← readString
  let timestamp ← readString
  let senderId ← readString
  let correlationId ← readOptionalString
  let sessionId ← readOptionalString
  let targetId ← readOptionalString
  let attachmentId ← readOptionalString
  let consoleId ← readOptionalString
  let payload ← readPayload
  -- the type of the message is not on the wire
  let messageType := payload.messageType
  return { protocolVersion, messageId, messageType, timestamp, senderId, correlationId,
           sessionId, targetId, attachmentId, consoleId, payload }

/-! ## Frames of an authority connection -/

/-- What travels on an authority connection. -/
inductive AuthorityTransportFrame where
  | controlPlane (envelope : ProtocolEnvelope ControlPlanePayload)
  | rawPtyInput (payload : RawPtyInputPayload)
  | rawPtyOutput (payload : RawPtyOutputPayload)
  | ping
  | pong
  | syncRequest (expectedSeq receivedSeq : UInt64)
  | syncResponse (sessionId targetId : String) (seq : UInt64) (bytes : List UInt8)
  | inputCongestion (congested : Bool)
  deriving DecidableEq

/-- The bytes of `waRP`. -/
def authorityFrameMagic : List UInt8 := [0x77, 0x61, 0x52, 0x50]

/-- The magic, a tag, then the fields. -/
def writeAuthorityTransportFrame (frame : AuthorityTransportFrame) : Written :=
  writeAll [.ok authorityFrameMagic,
    match frame with
    | .controlPlane envelope => writeAll [writeU8 1, writeControlPlaneEnvelope envelope]
    | .rawPtyInput payload => writeAll [writeU8 2, writeRawPtyInputPayload payload]
    | .rawPtyOutput payload => writeAll [writeU8 3, writeRawPtyOutputPayload payload]
    | .ping => writeAll [writeU8 4]
    | .pong => writeAll [writeU8 5]
    | .syncRequest expectedSeq receivedSeq =>
        writeAll [writeU8 6, writeU64 expectedSeq, writeU64 receivedSeq]
    | .syncResponse sessionId targetId seq bytes =>
        writeAll [writeU8 7, writeString sessionId, writeString targetId, writeU64 seq,
          writeBytes bytes]
    | .inputCongestion congested => writeAll [writeU8 8, writeU8 (if congested then 1 else 0)]]

/-- What stands behind the tag of a frame. -/
def readFrameBody (tag : UInt8) : Reader AuthorityTransportFrame := do
  match tag with
  | 1 => return .controlPlane (← readControlPlaneEnvelope)
  | 2 => return .rawPtyInput (← readRawPtyInputPayload)
  | 3 => return .rawPtyOutput (← readRawPtyOutputPayload)
  | 4 => return .ping
  | 5 => return .pong
  | 6 => return .syncRequest (← readU64) (← readU64)
  | 7 => return .syncResponse (← readString) (← readString) (← readU64) (← readBytes)
  | 8 => return .inputCongestion ((← readU8) != 0)
  | other => throw (.new s!"unknown authority transport frame tag `{other}`")

/-- A frame, or an envelope without one. -/
def readAuthorityTransportFrame : Reader AuthorityTransportFrame := do
  let start ← readExactly 4
  if start ≠ authorityFrameMagic then
    -- an envelope of before there were frames: the four bytes are chained in front again
    modify (start :: ·)
    return .controlPlane (← readControlPlaneEnvelope)
  else
    readFrameBody (← readU8)

end WaitAgent.Transport
