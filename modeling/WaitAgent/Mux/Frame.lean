import WaitAgent.Verified.Text
import WaitAgent.Verified.Utf8

/-!
# Frames of the relay mux

Stream frames and relay control frames share one format on a link.  Stream ids and
credits are numbers; where they are counted, the width of the source's integers is
stated there.
-/

namespace WaitAgent.Mux

open Verified

/-! ## Limits -/

/-- Send credit of a stream in each direction when it is opened. -/
def defaultStreamWindow : Nat := 256 * 1024

/-- So much has to be consumed before credit is granted again. -/
def windowGrantThreshold : Nat := defaultStreamWindow / 2

def maxFramePayload : Nat := 16 * 1024

/-- The longest node id of a control frame, in bytes. -/
def maxNodeIdLen : Nat := 256

/-- Frames that wait for the writer of a connection. -/
def outboundQueue : Nat := 1024

/-- Chunks of a stream that wait for its reader. -/
def inboundChunkQueue : Nat := 64

/-- Streams opened by the peer that wait to be accepted. -/
def acceptQueue : Nat := 64

/-! ## Error codes -/

inductive RelayErrorCode where
  | targetUnknown
  | streamUnknown
  | streamClosed
  | nodeCapacity
  | streamCapacity
  | throughputExceeded
  | tokenInvalid
  | tokenExpired
  | nodeRevoked
  | heartbeatLost
  | quotaExceeded
  deriving DecidableEq

namespace RelayErrorCode

def wireValue : RelayErrorCode → Nat
  | targetUnknown => 0x0001
  | streamUnknown => 0x0002
  | streamClosed => 0x0003
  | nodeCapacity => 0x0004
  | streamCapacity => 0x0005
  | throughputExceeded => 0x0006
  | tokenInvalid => 0x0007
  | tokenExpired => 0x0008
  | nodeRevoked => 0x0009
  | heartbeatLost => 0x000a
  | quotaExceeded => 0x000b

def message : RelayErrorCode → String
  | targetUnknown => "target node is unknown or offline"
  | streamUnknown => "stream is unknown on this link"
  | streamClosed => "stream direction is already closed"
  | nodeCapacity => "relay node capacity reached"
  | streamCapacity => "relay stream capacity reached"
  | throughputExceeded => "relay throughput limit exceeded"
  | tokenInvalid => "enrollment token is invalid or already used"
  | tokenExpired => "enrollment token has expired"
  | nodeRevoked => "node access revoked by the relay operator"
  | heartbeatLost => "relay heartbeat timed out; the link was evicted"
  | quotaExceeded => "quota exceeded"

def all : List RelayErrorCode :=
  [targetUnknown, streamUnknown, streamClosed, nodeCapacity, streamCapacity, throughputExceeded,
    tokenInvalid, tokenExpired, nodeRevoked, heartbeatLost, quotaExceeded]

def fromWire (code : Nat) : Option RelayErrorCode :=
  all.find? fun assigned => assigned.wireValue == code

end RelayErrorCode

/-! ## Frames -/

inductive Frame where
  | opened (streamId : Nat)
  | close (streamId : Nat)
  | data (streamId : Nat) (payload : List UInt8)
  | window (streamId credit : Nat)
  | register (nodeId : String)
  | unregister
  | heartbeat
  | openStream (streamId : Nat) (targetNodeId : String)
  | error (streamId code : Nat) (message : String)
  | closeStream (streamId : Nat)
  | enroll (token : String)
  | enrollResponse (fingerprint : String)
  | presence (nodeId : String) (online : Bool)
  | watch (nodeId : String)
  | adminRequest (seq : Nat) (command : String)
  | adminResponse (seq : Nat) (body : String)
  deriving DecidableEq

namespace Frame

/-- The stream a frame belongs to, 0 for a frame of the connection. -/
def streamId : Frame → Nat
  | opened streamId | close streamId | data streamId _ | window streamId _
  | openStream streamId _ | error streamId _ _ | closeStream streamId => streamId
  | register _ | unregister | heartbeat | enroll _ | enrollResponse _ | presence _ _ | watch _
  | adminRequest _ _ | adminResponse _ _ => 0

/-- The frames that keep their order within a stream; every other one is a reset or
belongs to the life of the connection. -/
def isBulkOrdered : Frame → Bool
  | data _ _ | window _ _ | close _ => true
  | _ => false

/-- `str::len`. -/
def textLen (text : String) : Nat := (utf8Bytes text.toList).length

/-- The length of the encoded payload, without the header. -/
def payloadLen : Frame → Nat
  | opened _ | close _ => 0
  | data _ payload => payload.length
  | window _ _ => 8
  | register nodeId | openStream _ nodeId => textLen nodeId
  | error _ _ message => 2 + textLen message
  | unregister | heartbeat | closeStream _ => 0
  | enroll token => textLen token
  | enrollResponse fingerprint => textLen fingerprint
  | presence nodeId _ => textLen nodeId + 1
  | watch nodeId => textLen nodeId
  | adminRequest _ command | adminResponse _ command => 8 + textLen command

section

variable (printable : Char → Bool)

def debugFields (name : String) (fields : List (String × String)) : String :=
  name ++ " \x7b " ++ ", ".intercalate (fields.map fun field => field.1 ++ ": " ++ field.2)
    ++ " \x7d"

/-- The `Debug` form of a frame. -/
def debug : Frame → String
  | opened streamId => debugFields "Open" [("stream_id", toString streamId)]
  | close streamId => debugFields "Close" [("stream_id", toString streamId)]
  | data streamId payload =>
      debugFields "Data" [("stream_id", toString streamId),
        ("payload", "[" ++ ", ".intercalate (payload.map fun byte => toString byte.toNat) ++ "]")]
  | window streamId credit =>
      debugFields "Window" [("stream_id", toString streamId), ("credit", toString credit)]
  | register nodeId => debugFields "Register" [("node_id", debugString printable nodeId)]
  | unregister => "Unregister"
  | heartbeat => "Heartbeat"
  | openStream streamId targetNodeId =>
      debugFields "OpenStream" [("stream_id", toString streamId),
        ("target_node_id", debugString printable targetNodeId)]
  | error streamId code message =>
      debugFields "Error" [("stream_id", toString streamId), ("code", toString code),
        ("message", debugString printable message)]
  | closeStream streamId => debugFields "CloseStream" [("stream_id", toString streamId)]
  | enroll token => debugFields "Enroll" [("token", debugString printable token)]
  | enrollResponse fingerprint =>
      debugFields "EnrollResponse" [("fingerprint", debugString printable fingerprint)]
  | presence nodeId online =>
      debugFields "Presence"
        [("node_id", debugString printable nodeId), ("online", toString online)]
  | watch nodeId => debugFields "Watch" [("node_id", debugString printable nodeId)]
  | adminRequest seq command =>
      debugFields "AdminRequest" [("seq", toString seq), ("command", debugString printable command)]
  | adminResponse seq body =>
      debugFields "AdminResponse" [("seq", toString seq), ("body", debugString printable body)]

end

end Frame

end WaitAgent.Mux
