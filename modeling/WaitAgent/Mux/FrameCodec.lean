import Mathlib.Data.List.Forall2
import WaitAgent.Mux.Frame
import WaitAgent.Verified.Lines
import WaitAgent.Verified.Wire

/-!
# Frames on the wire

A frame is a header of ten bytes, big-endian, and a payload that depends on its type.  The
length of the payload, the payload and the reading of it are three functions of the source that
have to agree on each of the sixteen types; here they are compared once and for all, in both
directions.  What is written is read back, frame after frame and however the bytes arrive; and
what is accepted is what would have been written, except that every byte other than 0 says that
a node is online.

Integers of the source are bounded by their type, `Frame.InRange` says so for a frame.
-/

namespace WaitAgent.Mux

open Verified

/-! ## Types of frames -/

def headerLen : Nat := 10

inductive FrameType where
  | opened
  | close
  | data
  | window
  | register
  | unregister
  | heartbeat
  | openStream
  | error
  | closeStream
  | enroll
  | enrollResponse
  | presence
  | watch
  | adminRequest
  | adminResponse
  deriving DecidableEq

/-- The errors of the codec. -/
inductive MuxError where
  | invalidFrameType (value : UInt8)
  | invalidFlags (flags : UInt8)
  | payloadTooLong (length : Nat)
  | invalidPayload (frameType : FrameType) (length : Nat)
  | invalidStreamId (frameType : FrameType) (streamId : Nat)
  | truncatedFrame
  deriving DecidableEq

namespace FrameType

def wireValue : FrameType → UInt8
  | opened => 0x01
  | close => 0x02
  | data => 0x03
  | window => 0x04
  | register => 0x05
  | unregister => 0x06
  | heartbeat => 0x07
  | openStream => 0x08
  | error => 0x09
  | closeStream => 0x0A
  | enroll => 0x0B
  | enrollResponse => 0x0C
  | presence => 0x0D
  | watch => 0x0E
  | adminRequest => 0x0F
  | adminResponse => 0x10

def fromWire : UInt8 → Except MuxError FrameType
  | 0x01 => .ok opened
  | 0x02 => .ok close
  | 0x03 => .ok data
  | 0x04 => .ok window
  | 0x05 => .ok register
  | 0x06 => .ok unregister
  | 0x07 => .ok heartbeat
  | 0x08 => .ok openStream
  | 0x09 => .ok error
  | 0x0A => .ok closeStream
  | 0x0B => .ok enroll
  | 0x0C => .ok enrollResponse
  | 0x0D => .ok presence
  | 0x0E => .ok watch
  | 0x0F => .ok adminRequest
  | 0x10 => .ok adminResponse
  | other => .error (.invalidFrameType other)

theorem fromWire_wireValue (frameType : FrameType) :
    fromWire frameType.wireValue = .ok frameType := by
  cases frameType <;> rfl

theorem wireValue_of_fromWire {value : UInt8} {frameType : FrameType}
    (h : fromWire value = .ok frameType) : frameType.wireValue = value := by
  unfold fromWire at h
  split at h <;> cases h <;> rfl

end FrameType

namespace Frame

def frameType : Frame → FrameType
  | opened _ => .opened
  | close _ => .close
  | data _ _ => .data
  | window _ _ => .window
  | register _ => .register
  | unregister => .unregister
  | heartbeat => .heartbeat
  | openStream _ _ => .openStream
  | error _ _ _ => .error
  | closeStream _ => .closeStream
  | enroll _ => .enroll
  | enrollResponse _ => .enrollResponse
  | presence _ _ => .presence
  | watch _ => .watch
  | adminRequest _ _ => .adminRequest
  | adminResponse _ _ => .adminResponse

/-! ## Writing -/

/-- `str::as_bytes`. -/
def textBytes (text : String) : List UInt8 := utf8Bytes text.toList

def encodePayload : Frame → List UInt8
  | data _ payload => payload
  | window _ credit => beBytes 8 credit
  | register nodeId | openStream _ nodeId => textBytes nodeId
  | error _ code message => beBytes 2 code ++ textBytes message
  | enroll token => textBytes token
  | enrollResponse fingerprint => textBytes fingerprint
  | presence nodeId online => textBytes nodeId ++ [if online then 1 else 0]
  | watch nodeId => textBytes nodeId
  | adminRequest seq text | adminResponse seq text => beBytes 8 seq ++ textBytes text
  | opened _ | close _ | unregister | heartbeat | closeStream _ => []

def encodeHeader (frame : Frame) : List UInt8 :=
  frame.frameType.wireValue :: 0 :: (beBytes 4 frame.streamId ++ beBytes 4 frame.payloadLen)

def encode (frame : Frame) : List UInt8 :=
  frame.encodeHeader ++ frame.encodePayload

/-! ## Reading -/

section

variable (frameType : FrameType) (streamId length : Nat) (payload : List UInt8)

/-- `String::from_utf8`, for the text of a payload. -/
def decodeText : Except MuxError String :=
  match fromUtf8 payload with
  | .ok chars => .ok (String.ofList chars)
  | .error _ => .error (.invalidPayload frameType length)

/-- The sequence number and the text of an admin frame. -/
def decodeAdminPayload : Except MuxError (Nat × String) :=
  if payload.length < 8 then .error (.invalidPayload frameType payload.length)
  else do
    let text ← decodeText frameType payload.length (payload.drop 8)
    return (beValue (payload.take 8), text)

/-- A frame that carries nothing. -/
def decodeEmpty (frame : Frame) : Except MuxError Frame :=
  if payload.isEmpty then .ok frame else .error (.invalidPayload frameType length)

/-- The frame belongs to no stream. -/
def requireNoStream : Except MuxError Unit :=
  if streamId ≠ 0 then .error (.invalidStreamId frameType streamId) else .ok ()

/-- A node id, and its bound. -/
def decodeNodeId : Except MuxError String :=
  if payload.length > maxNodeIdLen then .error (.invalidPayload frameType length)
  else decodeText frameType length payload

def decodePayload : Except MuxError Frame :=
  match frameType with
  | .opened => decodeEmpty .opened length payload (.opened streamId)
  | .close => decodeEmpty .close length payload (.close streamId)
  | .data => .ok (.data streamId payload)
  | .window =>
      if payload.length = 8 then .ok (.window streamId (beValue payload))
      else .error (.invalidPayload .window length)
  | .register => do
      requireNoStream .register streamId
      return .register (← decodeNodeId .register length payload)
  | .unregister =>
      if payload.isEmpty ∧ streamId = 0 then .ok .unregister
      else .error (.invalidStreamId .unregister streamId)
  | .heartbeat =>
      if payload.isEmpty ∧ streamId = 0 then .ok .heartbeat
      else .error (.invalidStreamId .heartbeat streamId)
  | .openStream => do
      return .openStream streamId (← decodeNodeId .openStream length payload)
  | .error =>
      if payload.length < 2 then .error (.invalidPayload .error length)
      else do
        let message ← decodeText .error length (payload.drop 2)
        return .error streamId (beValue (payload.take 2)) message
  | .closeStream => decodeEmpty .closeStream length payload (.closeStream streamId)
  | .enroll => do
      requireNoStream .enroll streamId
      return .enroll (← decodeText .enroll length payload)
  | .enrollResponse => do
      requireNoStream .enrollResponse streamId
      return .enrollResponse (← decodeText .enrollResponse length payload)
  | .presence => do
      requireNoStream .presence streamId
      match payload.getLast? with
      | none => .error (.invalidPayload .presence length)
      | some onlineByte =>
          let nodeId ← decodeNodeId .presence length payload.dropLast
          return .presence nodeId (onlineByte ≠ 0)
  | .watch => do
      requireNoStream .watch streamId
      return .watch (← decodeNodeId .watch length payload)
  | .adminRequest => do
      requireNoStream .adminRequest streamId
      let (seq, command) ← decodeAdminPayload .adminRequest payload
      return .adminRequest seq command
  | .adminResponse => do
      requireNoStream .adminResponse streamId
      let (seq, body) ← decodeAdminPayload .adminResponse payload
      return .adminResponse seq body

end

/-- The length of the payload that a header announces. -/
def headerLength (header : List UInt8) : Nat := beValue ((header.drop 6).take 4)

def decode (header payload : List UInt8) : Except MuxError Frame := do
  let frameType ← FrameType.fromWire (header.getD 0 0)
  if header.getD 1 0 ≠ 0 then
    throw (.invalidFlags (header.getD 1 0))
  if headerLength header ≠ payload.length then
    throw .truncatedFrame
  decodePayload frameType (beValue ((header.drop 2).take 4)) (headerLength header) payload

def readFrame : ByteReader MuxError Frame := do
  let header ← readExact .truncatedFrame headerLen
  if headerLength header > maxFramePayload then
    throw (.payloadTooLong (headerLength header))
  let payload ← readExact .truncatedFrame (headerLength header)
  decode header payload

/-! ## Frames of the source -/

/-- The numbers of a frame fit the integers of the source. -/
def InRange : Frame → Prop
  | opened streamId | close streamId | data streamId _ | openStream streamId _
  | closeStream streamId => streamId < 2 ^ 32
  | window streamId credit => streamId < 2 ^ 32 ∧ credit < 2 ^ 64
  | error streamId code _ => streamId < 2 ^ 32 ∧ code < 2 ^ 16
  | adminRequest seq _ | adminResponse seq _ => seq < 2 ^ 64
  | register _ | unregister | heartbeat | enroll _ | enrollResponse _ | presence _ _ | watch _ =>
      True

/-- The node id that a frame carries is not too long. -/
def NodeIdFits : Frame → Prop
  | register nodeId | openStream _ nodeId | presence nodeId _ | watch nodeId =>
      textLen nodeId ≤ maxNodeIdLen
  | _ => True

section

variable {frame : Frame}

theorem InRange.streamId_lt (h : frame.InRange) : frame.streamId < 256 ^ 4 := by
  have hWord : (2 : Nat) ^ 32 = 256 ^ 4 := by decide
  rw [← hWord]
  cases frame with
  | window streamId credit => exact h.1
  | error streamId code message => exact h.1
  | opened | close | data | openStream | closeStream => exact h
  | _ => exact Nat.two_pow_pos 32

theorem length_encodePayload (frame : Frame) :
    frame.encodePayload.length = frame.payloadLen := by
  cases frame with
  | error streamId code message =>
    simp only [encodePayload, payloadLen, List.length_append, length_beBytes]
    rfl
  | adminRequest seq text =>
    simp only [encodePayload, payloadLen, List.length_append, length_beBytes]
    rfl
  | adminResponse seq text =>
    simp only [encodePayload, payloadLen, List.length_append, length_beBytes]
    rfl
  | presence nodeId online =>
    simp only [encodePayload, payloadLen, List.length_append]
    rfl
  | window streamId credit => exact length_beBytes 8 credit
  | _ => rfl

theorem length_encodeHeader (frame : Frame) : frame.encodeHeader.length = headerLen := by
  simp [encodeHeader, headerLen]

/-! ## What is written is read -/

theorem decodeText_textBytes (frameType : FrameType) (length : Nat) (text : String) :
    decodeText frameType length (textBytes text) = .ok text := by
  rw [decodeText, textBytes, fromUtf8_utf8Bytes]
  simp only [String.ofList_toList]

theorem decodeNodeId_textBytes (frameType : FrameType) (length : Nat) {nodeId : String}
    (h : textLen nodeId ≤ maxNodeIdLen) :
    decodeNodeId frameType length (textBytes nodeId) = .ok nodeId := by
  have hShort : ¬ (textBytes nodeId).length > maxNodeIdLen := Nat.not_lt.mpr h
  rw [decodeNodeId, if_neg hShort, decodeText_textBytes]

theorem decodeAdminPayload_bytes (frameType : FrameType) {seq : Nat} (h : seq < 2 ^ 64)
    (text : String) :
    decodeAdminPayload frameType (beBytes 8 seq ++ textBytes text) = .ok (seq, text) := by
  have hTake : (beBytes 8 seq ++ textBytes text).take 8 = beBytes 8 seq :=
    List.take_left' (length_beBytes 8 seq)
  have hDrop : (beBytes 8 seq ++ textBytes text).drop 8 = textBytes text :=
    List.drop_left' (length_beBytes 8 seq)
  have hLong : ¬ (beBytes 8 seq ++ textBytes text).length < 8 := by
    rw [List.length_append, length_beBytes]
    omega
  rw [decodeAdminPayload, if_neg hLong, hTake, hDrop, decodeText_textBytes,
    beValue_beBytes 8 seq h]
  rfl

/-- The payload of a frame is read back, whatever its type. -/
theorem decodePayload_encodePayload (h : frame.InRange) (hNode : frame.NodeIdFits) :
    decodePayload frame.frameType frame.streamId frame.payloadLen frame.encodePayload =
      .ok frame := by
  cases frame with
  | opened | close | closeStream | data | unregister | heartbeat => rfl
  | window streamId credit =>
    simp only [frameType, decodePayload, encodePayload, length_beBytes, if_true,
      beValue_beBytes 8 credit h.2]
    rfl
  | register nodeId =>
    simp only [frameType, decodePayload, encodePayload, decodeNodeId_textBytes _ _ hNode]
    rfl
  | openStream streamId nodeId =>
    simp only [frameType, decodePayload, encodePayload, decodeNodeId_textBytes _ _ hNode]
    rfl
  | watch nodeId =>
    simp only [frameType, decodePayload, encodePayload, decodeNodeId_textBytes _ _ hNode]
    rfl
  | enroll token =>
    simp only [frameType, decodePayload, encodePayload, decodeText_textBytes]
    rfl
  | enrollResponse fingerprint =>
    simp only [frameType, decodePayload, encodePayload, decodeText_textBytes]
    rfl
  | error streamId code message =>
    have hTake : (beBytes 2 code ++ textBytes message).take 2 = beBytes 2 code :=
      List.take_left' (length_beBytes 2 code)
    have hDrop : (beBytes 2 code ++ textBytes message).drop 2 = textBytes message :=
      List.drop_left' (length_beBytes 2 code)
    have hLong : ¬ (beBytes 2 code ++ textBytes message).length < 2 := by
      rw [List.length_append, length_beBytes]
      omega
    simp only [frameType, decodePayload, encodePayload, if_neg hLong, hTake, hDrop,
      decodeText_textBytes, beValue_beBytes 2 code h.2]
    rfl
  | presence nodeId online =>
    simp only [frameType, decodePayload, encodePayload, List.getLast?_append,
      List.getLast?_singleton, Option.some_or, List.dropLast_concat,
      decodeNodeId_textBytes _ _ hNode]
    cases online <;> rfl
  | adminRequest seq text =>
    simp only [frameType, decodePayload, encodePayload, decodeAdminPayload_bytes _ h]
    rfl
  | adminResponse seq text =>
    simp only [frameType, decodePayload, encodePayload, decodeAdminPayload_bytes _ h]
    rfl

theorem headerLength_encodeHeader (h : frame.payloadLen < 256 ^ 4) :
    headerLength frame.encodeHeader = frame.payloadLen := by
  have hDrop : (frame.encodeHeader.drop 6).take 4 = beBytes 4 frame.payloadLen := by
    simp [encodeHeader, beBytes, leBytes]
  rw [headerLength, hDrop, beValue_beBytes 4 _ h]

theorem decode_encode (h : frame.InRange) (hNode : frame.NodeIdFits)
    (hFits : frame.payloadLen ≤ maxFramePayload) :
    decode frame.encodeHeader frame.encodePayload = .ok frame := by
  have hId : (frame.encodeHeader.drop 2).take 4 = beBytes 4 frame.streamId := by
    simp [encodeHeader, beBytes, leBytes]
  have hType : FrameType.fromWire (frame.encodeHeader.getD 0 0) = .ok frame.frameType :=
    FrameType.fromWire_wireValue frame.frameType
  have hFlags : frame.encodeHeader.getD 1 0 = 0 := rfl
  have hLength := headerLength_encodeHeader (Nat.lt_of_le_of_lt hFits (by decide))
  rw [decode, hType, hFlags, hLength, length_encodePayload, hId,
    beValue_beBytes 4 _ h.streamId_lt]
  simp only [ne_eq, not_true, if_false, bind, Except.bind]
  exact decodePayload_encodePayload h hNode

/-- A frame is read off the wire in whatever pieces it comes. -/
theorem encodes_readFrame (h : frame.InRange) (hNode : frame.NodeIdFits)
    (hFits : frame.payloadLen ≤ maxFramePayload) : Encodes readFrame frame.encode frame := by
  have hHeader := encodes_readExact MuxError.truncatedFrame frame.encodeHeader
  have hPayload := encodes_readExact MuxError.truncatedFrame frame.encodePayload
  rw [length_encodeHeader] at hHeader
  rw [length_encodePayload] at hPayload
  have hLength := headerLength_encodeHeader (Nat.lt_of_le_of_lt hFits (by decide))
  refine hHeader.bind ?_
  rw [hLength, if_neg (Nat.not_lt.mpr hFits)]
  refine hPayload.last ?_
  rw [decode_encode h hNode hFits]
  rfl

/-! ## What is read was written -/

/-- The payload says that a node is online with a byte other than 1. -/
def OddlyOnline (frame : Frame) (payload : List UInt8) : Prop :=
  ∃ nodeId online byte, frame = .presence nodeId online ∧ payload.getLast? = some byte ∧
    byte ≠ 0 ∧ byte ≠ 1

/-- What it means that a payload is accepted. -/
structure Accepted (frameType : FrameType) (streamId : Nat) (payload : List UInt8)
    (frame : Frame) : Prop where
  frameType : frame.frameType = frameType
  streamId : frame.streamId = streamId
  inRange : frame.InRange
  payload : frame.encodePayload = payload ↔ ¬ frame.OddlyOnline payload

variable {frameType : FrameType} {streamId length : Nat} {payload : List UInt8}

theorem textBytes_of_decodeText {text : String}
    (h : decodeText frameType length payload = .ok text) : textBytes text = payload := by
  unfold decodeText at h
  split at h
  · next chars hChars =>
    cases h
    rw [textBytes, String.toList_ofList]
    exact utf8Bytes_of_fromUtf8 hChars
  · cases h

theorem textBytes_of_decodeNodeId {nodeId : String}
    (h : decodeNodeId frameType length payload = .ok nodeId) : textBytes nodeId = payload := by
  unfold decodeNodeId at h
  split_ifs at h
  exact textBytes_of_decodeText h

theorem bytes_of_decodeAdminPayload {seq : Nat} {text : String}
    (h : decodeAdminPayload frameType payload = .ok (seq, text)) :
    seq < 2 ^ 64 ∧ beBytes 8 seq ++ textBytes text = payload := by
  unfold decodeAdminPayload at h
  split_ifs at h with hShort
  obtain ⟨read, hText, hPair⟩ := bind_eq_ok.mp h
  cases hPair
  have hLength : (payload.take 8).length = 8 := by
    rw [List.length_take]
    omega
  have hLt := beValue_lt (payload.take 8)
  rw [hLength] at hLt
  refine ⟨hLt, ?_⟩
  rw [beBytes_beValue hLength, textBytes_of_decodeText hText, List.take_append_drop]

/-- A payload that would be written like this. -/
theorem Accepted.of_eq (hType : frame.frameType = frameType) (hStream : frame.streamId = streamId)
    (hRange : frame.InRange) (hPayload : frame.encodePayload = payload)
    (hPresence : frameType ≠ .presence) : Accepted frameType streamId payload frame := by
  refine ⟨hType, hStream, hRange, iff_of_true hPayload ?_⟩
  rintro ⟨nodeId, online, byte, rfl, -⟩
  exact hPresence hType.symm

variable (frame) in
theorem Accepted.empty (hRange : frame.InRange) (hEmpty : frame.encodePayload = [])
    {decoded : Frame} (h : decodeEmpty frame.frameType length payload frame = .ok decoded) :
    Accepted frame.frameType frame.streamId payload decoded := by
  unfold decodeEmpty at h
  split_ifs at h with hPayload
  cases h
  refine .of_eq rfl rfl hRange (hEmpty.trans (List.isEmpty_iff.mp hPayload).symm) ?_
  cases frame with
  | presence nodeId online => simp [encodePayload] at hEmpty
  | _ => exact nofun

theorem eq_zero_of_requireNoStream {u : Unit} (h : requireNoStream frameType streamId = .ok u) :
    streamId = 0 := by
  unfold requireNoStream at h
  split_ifs at h with hStream
  simpa using hStream

theorem accepted_presence {nodeId : String} {byte : UInt8} (hByte : payload.getLast? = some byte)
    (hNode : textBytes nodeId = payload.dropLast) :
    Accepted .presence 0 payload (.presence nodeId (byte ≠ 0)) := by
  have hSplit : payload = payload.dropLast ++ [byte] := by
    obtain ⟨front, rfl⟩ := List.getLast?_eq_some_iff.mp hByte
    rw [List.dropLast_concat]
  refine ⟨rfl, rfl, trivial, ?_⟩
  have hBytes : (Frame.presence nodeId (byte ≠ 0)).encodePayload =
      payload.dropLast ++ [if byte ≠ 0 then 1 else 0] := by
    simp only [encodePayload, hNode, decide_eq_true_eq]
  rw [hBytes]
  constructor
  · rintro hSame ⟨_, _, other, -, hOther, hZero, hOne⟩
    rw [hByte] at hOther
    cases hOther
    have hLast : payload.dropLast ++ [if byte ≠ 0 then 1 else 0] = payload.dropLast ++ [byte] :=
      hSame.trans hSplit
    rw [List.append_cancel_left_eq, List.cons.injEq, if_pos hZero] at hLast
    exact hOne hLast.1.symm
  · intro hEven
    have hValue : (if byte ≠ 0 then 1 else 0) = byte := by
      by_cases hZero : byte = 0
      · simp [hZero]
      · rw [if_pos hZero]
        by_contra hOne
        exact hEven ⟨nodeId, _, byte, rfl, hByte, hZero, fun h => hOne h.symm⟩
    rw [hValue, ← hSplit]

theorem accepted_of_decodePayload (hStream : streamId < 2 ^ 32)
    (h : decodePayload frameType streamId length payload = .ok frame) :
    Accepted frameType streamId payload frame := by
  cases frameType with
  | opened => exact .empty (.opened streamId) hStream rfl h
  | close => exact .empty (.close streamId) hStream rfl h
  | closeStream => exact .empty (.closeStream streamId) hStream rfl h
  | data =>
    cases h
    exact .of_eq rfl rfl hStream rfl (by decide)
  | window =>
    simp only [decodePayload] at h
    split_ifs at h with hLength
    cases h
    have hLt := beValue_lt payload
    rw [hLength] at hLt
    exact .of_eq rfl rfl ⟨hStream, hLt⟩ (beBytes_beValue hLength) (by decide)
  | register =>
    obtain ⟨u, hZero, h⟩ := bind_eq_ok.mp h
    obtain ⟨nodeId, hNode, h⟩ := bind_eq_ok.mp h
    cases h
    exact .of_eq rfl (eq_zero_of_requireNoStream hZero).symm trivial
      (textBytes_of_decodeNodeId hNode) (by decide)
  | unregister =>
    simp only [decodePayload] at h
    split_ifs at h with hEmpty
    cases h
    exact .of_eq rfl hEmpty.2.symm trivial (List.isEmpty_iff.mp hEmpty.1).symm (by decide)
  | heartbeat =>
    simp only [decodePayload] at h
    split_ifs at h with hEmpty
    cases h
    exact .of_eq rfl hEmpty.2.symm trivial (List.isEmpty_iff.mp hEmpty.1).symm (by decide)
  | openStream =>
    obtain ⟨nodeId, hNode, h⟩ := bind_eq_ok.mp h
    cases h
    exact .of_eq rfl rfl hStream (textBytes_of_decodeNodeId hNode) (by decide)
  | error =>
    simp only [decodePayload] at h
    split_ifs at h with hShort
    obtain ⟨message, hText, h⟩ := bind_eq_ok.mp h
    cases h
    have hLength : (payload.take 2).length = 2 := by
      rw [List.length_take]
      omega
    have hLt := beValue_lt (payload.take 2)
    rw [hLength] at hLt
    refine .of_eq rfl rfl ⟨hStream, hLt⟩ ?_ (by decide)
    rw [encodePayload, beBytes_beValue hLength, textBytes_of_decodeText hText,
      List.take_append_drop]
  | enroll =>
    obtain ⟨u, hZero, h⟩ := bind_eq_ok.mp h
    obtain ⟨token, hText, h⟩ := bind_eq_ok.mp h
    cases h
    exact .of_eq rfl (eq_zero_of_requireNoStream hZero).symm trivial
      (textBytes_of_decodeText hText) (by decide)
  | enrollResponse =>
    obtain ⟨u, hZero, h⟩ := bind_eq_ok.mp h
    obtain ⟨fingerprint, hText, h⟩ := bind_eq_ok.mp h
    cases h
    exact .of_eq rfl (eq_zero_of_requireNoStream hZero).symm trivial
      (textBytes_of_decodeText hText) (by decide)
  | presence =>
    obtain ⟨u, hZero, h⟩ := bind_eq_ok.mp h
    rw [eq_zero_of_requireNoStream hZero]
    split at h
    · cases h
    · next byte hByte =>
      obtain ⟨nodeId, hNode, h⟩ := bind_eq_ok.mp h
      cases h
      exact accepted_presence hByte (textBytes_of_decodeNodeId hNode)
  | watch =>
    obtain ⟨u, hZero, h⟩ := bind_eq_ok.mp h
    obtain ⟨nodeId, hNode, h⟩ := bind_eq_ok.mp h
    cases h
    exact .of_eq rfl (eq_zero_of_requireNoStream hZero).symm trivial
      (textBytes_of_decodeNodeId hNode) (by decide)
  | adminRequest =>
    obtain ⟨u, hZero, h⟩ := bind_eq_ok.mp h
    obtain ⟨⟨seq, text⟩, hText, h⟩ := bind_eq_ok.mp h
    cases h
    obtain ⟨hSeq, hBytes⟩ := bytes_of_decodeAdminPayload hText
    exact .of_eq rfl (eq_zero_of_requireNoStream hZero).symm hSeq hBytes (by decide)
  | adminResponse =>
    obtain ⟨u, hZero, h⟩ := bind_eq_ok.mp h
    obtain ⟨⟨seq, text⟩, hText, h⟩ := bind_eq_ok.mp h
    cases h
    obtain ⟨hSeq, hBytes⟩ := bytes_of_decodeAdminPayload hText
    exact .of_eq rfl (eq_zero_of_requireNoStream hZero).symm hSeq hBytes (by decide)

theorem header_eq {header : List UInt8} (h : header.length = headerLen) :
    header = header.getD 0 0 :: header.getD 1 0 ::
      ((header.drop 2).take 4 ++ (header.drop 6).take 4) := by
  match header, h with
  | frameType :: flags :: rest, h =>
    have hRest : (rest.drop 4).take 4 = rest.drop 4 := by
      rw [List.take_of_length_le]
      rw [List.length_drop]
      simp only [List.length_cons, headerLen] at h
      omega
    change frameType :: flags :: rest =
      frameType :: flags :: (rest.take 4 ++ (rest.drop 4).take 4)
    rw [hRest, List.take_append_drop]

theorem accepted_of_decode {header : List UInt8} (hHeader : header.length = headerLen)
    (h : decode header payload = .ok frame) :
    frame.InRange ∧ (frame.encode = header ++ payload ↔ ¬ frame.OddlyOnline payload) := by
  obtain ⟨frameType, hType, h⟩ := bind_eq_ok.mp h
  have hFlags : header.getD 1 0 = 0 := by
    by_contra hNot
    rw [if_pos hNot] at h
    cases h
  rw [if_neg (fun hNot => hNot hFlags)] at h
  have hLength : headerLength header = payload.length := by
    by_contra hNot
    simp only [if_pos hNot] at h
    cases h
  simp only [if_neg (fun hNot : headerLength header ≠ _ => hNot hLength)] at h
  have hIdLength : ((header.drop 2).take 4).length = 4 := by
    rw [List.length_take, List.length_drop, hHeader]
    rfl
  have hLengthLength : ((header.drop 6).take 4).length = 4 := by
    rw [List.length_take, List.length_drop, hHeader]
    rfl
  have hId := beValue_lt ((header.drop 2).take 4)
  rw [hIdLength] at hId
  have hAccepted := accepted_of_decodePayload hId h
  refine ⟨hAccepted.inRange, ?_⟩
  rw [← hAccepted.payload]
  constructor
  · intro hSame
    exact (List.append_inj hSame ((length_encodeHeader frame).trans hHeader.symm)).2
  · intro hPayload
    have hLen : frame.payloadLen = beValue ((header.drop 6).take 4) := by
      rw [← length_encodePayload, hPayload]
      exact hLength.symm
    rw [encode, hPayload]
    congr 1
    rw [encodeHeader, hAccepted.frameType, hAccepted.streamId, hLen, beBytes_beValue hIdLength,
      beBytes_beValue hLengthLength, FrameType.wireValue_of_fromWire hType]
    conv_rhs => rw [header_eq hHeader, hFlags]

end

/-- A frame that the link takes: a value of the source, within the limits of `read_frame`. -/
structure Readable (frame : Frame) : Prop where
  inRange : frame.InRange
  nodeIdFits : frame.NodeIdFits
  payloadFits : frame.payloadLen ≤ maxFramePayload

/-- Frames are read back one after another, off exactly the bytes that were written for them;
what is accepted is the encoding of what it is read as, but for an odd way to say that a node is
online; and the length of a payload is what it is said to be. -/
theorem frame_codec (frames : List Frame) (header payload : List UInt8) (frame : Frame) :
    ((∀ frame ∈ frames, frame.Readable) →
      Encodes (readMany readFrame frames.length) (frames.map encode).flatten frames) ∧
    (header.length = headerLen → payload.length ≤ maxFramePayload →
      decode header payload = .ok frame →
        frame.InRange ∧ (frame.encode = header ++ payload ↔ ¬ frame.OddlyOnline payload)) ∧
    frame.encodePayload.length = frame.payloadLen := by
  refine ⟨fun hReadable => encodes_readMany ?_, fun hHeader _ h => accepted_of_decode hHeader h,
    length_encodePayload frame⟩
  rw [List.forall₂_map_left_iff, List.forall₂_same]
  exact fun f hMem => encodes_readFrame (hReadable f hMem).inRange (hReadable f hMem).nodeIdFits
    (hReadable f hMem).payloadFits

/-- A chunk and the news of a node are read back; news whose last byte is 2 are taken for those
of a node that is online, and are not written so. -/
theorem frame_codec_news :
    Encodes (readMany readFrame 2) ([.data 1 [7, 8], .presence "n" false].map encode).flatten
        [.data 1 [7, 8], .presence "n" false] ∧
      decode [13, 0, 0, 0, 0, 0, 0, 0, 0, 2] [110, 2] = .ok (.presence "n" true) ∧
      (presence "n" true).encode ≠ [13, 0, 0, 0, 0, 0, 0, 0, 0, 2] ++ [110, 2] := by
  have hOdd : decode [13, 0, 0, 0, 0, 0, 0, 0, 0, 2] [110, 2] = .ok (.presence "n" true) := by
    decide +kernel
  obtain ⟨hRead, hAccepted, -⟩ := frame_codec [.data 1 [7, 8], .presence "n" false]
    [13, 0, 0, 0, 0, 0, 0, 0, 0, 2] [110, 2] (.presence "n" true)
  refine ⟨hRead ?_, hOdd, fun hSame => ?_⟩
  · intro frame hMem
    simp only [List.mem_cons, List.not_mem_nil, or_false] at hMem
    rcases hMem with rfl | rfl
    · exact ⟨show 1 < 2 ^ 32 by decide, trivial, by decide⟩
    · exact ⟨trivial, show Frame.textLen "n" ≤ maxNodeIdLen by decide, by decide⟩
  · exact (hAccepted rfl (by decide) hOdd).2.mp hSame
      ⟨"n", true, 2, rfl, rfl, by decide, by decide⟩

end Frame

end WaitAgent.Mux
