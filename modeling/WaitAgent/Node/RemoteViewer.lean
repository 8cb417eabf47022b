import WaitAgent.Remote.Observer
import WaitAgent.Verified.HashMap

/-!
# A viewer of a remote session and the hosts it shows

A viewer listens for connections of the bridge that leads to the peer.  Each
connection is served by a thread: after the handshake it takes the writer over
from the connection before it, whose stream it shuts down, and from then on it
feeds the output it reads to the observer.  A connection that was replaced may
still have output to read.

On the peer's side an authority host numbers the output of the session, starting
with one.  When the peer's own connection is lost its hosts are shut down; a new
host is spawned later for the same session and starts with one again.  A bridge
that breaks is not the end of a host, so output of one host can arrive on several
connections.

The model notes which host each piece of output comes from and what was fed.
Whether a mirror was opened, and at what size, is left out here.
-/

namespace WaitAgent.Node

open Remote Verified

/-- A `RawPtyOutput` frame, with the host that numbered it. -/
structure OutputFrame where
  host : Nat
  outputSeq : Nat
  outputBytes : List UInt8
  deriving DecidableEq, Repr

/-- Where the thread of a connection is. -/
inductive ConnectionPhase where
  /-- the handshake is not done -/
  | hello
  /-- frames are read -/
  | reading
  /-- the stream was shut down; what has arrived can be read -/
  | shut
  deriving DecidableEq, Repr

/-- The session of a viewer; connections are named by their numbers. -/
structure RatatuiRemoteSession where
  observer : RemoteObserverRuntime := {}
  writer : Option Nat := none
  /-- a `u64`, which no run of fewer than `2 ^ 64` steps wraps (`nextConnectionSeq_run_le`) -/
  nextConnectionSeq : Nat := 1
  currentWriterSeq : Nat := 0
  running : Bool := true
  closed : Bool := false
  firstOutputReceived : Bool := false
  deriving DecidableEq, Repr

structure RemoteViewer where
  session : RatatuiRemoteSession := {}
  connections : HashMap Nat ConnectionPhase := ∅
  /-- frames that have arrived and were not read, with their connection -/
  pending : List (Nat × OutputFrame) := []
  /-- the number each host gives to its next frame -/
  hosts : HashMap Nat Nat := ∅
  nextHost : Nat := 0
  /-- how often a disconnect was reported -/
  disconnects : Nat := 0
  /-- the frames the terminal was fed -/
  fed : List OutputFrame := []
  /-- the host of what was fed since the observer's number was cleared -/
  source : Option Nat := none

inductive ViewerLabel where
  | accept
  /-- the handshake is over; the stream must also be duplicated -/
  | handshake (connection : Nat) (succeeded : Bool)
  /-- a connection's thread reads the next frame -/
  | read (connection : Nat)
  /-- a connection's thread reads an error, or sees that the session was stopped -/
  | readerExit (connection : Nat)
  | clearOutputSeq
  | stop
  | spawnHost
  | shutdownHost (host : Nat)
  /-- a host sends its next frame, which arrives on a connection or is lost -/
  | output (host : Nat) (connection : Option Nat) (bytes : List UInt8)

namespace RemoteViewer

/-- Shut a connection's stream down. -/
def shutdown (connections : HashMap Nat ConnectionPhase) (writer : Option Nat) :
    HashMap Nat ConnectionPhase :=
  match writer with
  | some previous => connections.insert previous .shut
  | none => connections

/-- The newest connection always wins. -/
def takeOver (m : RemoteViewer) (connection : Nat) : RemoteViewer :=
  { m with
    session := { m.session with writer := some connection, currentWriterSeq := connection }
    connections := (shutdown m.connections m.session.writer).insert connection .reading }

/-- The next frame a connection's thread reads. -/
def nextFrame (m : RemoteViewer) (connection : Nat) : Option OutputFrame :=
  (m.pending.find? fun p => p.1 == connection).map (·.2)

/-- Frames reach a connection until its stream is shut down. -/
def receives (m : RemoteViewer) (connection : Nat) : Bool :=
  (m.connections.lookup connection).any (· != .shut)

def reads (m : RemoteViewer) (connection : Nat) : Bool :=
  (m.connections.lookup connection).any (· != .hello)

def feed (m : RemoteViewer) (connection : Nat) (frame : OutputFrame) : RemoteViewer :=
  let duplicate := m.session.observer.isDuplicate frame.outputSeq
  { m with
    session := { m.session with
      observer := m.session.observer.feedRawOutput frame.outputSeq frame.outputBytes
      firstOutputReceived := true }
    pending := m.pending.eraseP fun p => p.1 == connection
    fed := if duplicate then m.fed else m.fed ++ [frame]
    source := if duplicate then m.source else some frame.host }

/-- Only the connection that owns the writer reports that it ended. -/
def readerExit (m : RemoteViewer) (connection : Nat) : RemoteViewer :=
  let isCurrent := m.session.currentWriterSeq = connection
  { m with
    session := if isCurrent then { m.session with writer := none } else m.session
    connections := m.connections.erase connection
    pending := m.pending.filter fun p => p.1 != connection
    disconnects :=
      if isCurrent ∧ ¬ m.session.closed then m.disconnects + 1 else m.disconnects }

def output (m : RemoteViewer) (host : Nat) (connection : Option Nat) (bytes : List UInt8) :
    RemoteViewer :=
  match m.hosts.lookup host with
  | none => m
  | some outputSeq =>
      { m with
        hosts := m.hosts.insert host (outputSeq + 1)
        pending := m.pending ++ (connection.filter m.receives).toList.map fun connection =>
          (connection, { host, outputSeq, outputBytes := bytes }) }

def step (m : RemoteViewer) : ViewerLabel → RemoteViewer
  | .accept =>
      if m.session.running then
        { m with
          session := { m.session with nextConnectionSeq := m.session.nextConnectionSeq + 1 }
          connections := m.connections.insert m.session.nextConnectionSeq .hello }
      else
        m
  | .handshake connection succeeded =>
      if m.connections.lookup connection = some .hello then
        if succeeded then
          m.takeOver connection
        else
          { m with
            connections := m.connections.erase connection
            pending := m.pending.filter fun p => p.1 != connection }
      else
        m
  | .read connection =>
      match m.nextFrame connection with
      | none => m
      | some frame => if m.reads connection then m.feed connection frame else m
  | .readerExit connection => if m.reads connection then m.readerExit connection else m
  | .clearOutputSeq =>
      { m with
        session := { m.session with observer := m.session.observer.clearOutputSeq }
        source := none }
  | .stop =>
      { m with
        session := { m.session with closed := true, running := false, writer := none }
        connections := shutdown m.connections m.session.writer }
  | .spawnHost =>
      { m with hosts := m.hosts.insert m.nextHost 1, nextHost := m.nextHost + 1 }
  | .shutdownHost host => { m with hosts := m.hosts.erase host }
  | .output host connection bytes => m.output host connection bytes

end RemoteViewer

end WaitAgent.Node
