import WaitAgent.Verified.HashMap

/-!
# The IO loop of the authority-host sessions

One thread owns the terminals of all authority-host sessions and takes requests
from a channel.  The end of a session is reported to the state loop, by the bare
session id.  A terminal can be watched by several consoles, of which one decides
its size.

The grid that follows a terminal is that of a library, whose `resize` panics on
some sizes (`panics`); the thread ends with it, which is `none` here.
-/

namespace WaitAgent.Node

open Verified

/-- What other threads ask of the IO loop. -/
inductive AuthorityHostIoRequest where
  | resize (sessionId consoleId : String) (cols rows : Nat)
  | registerSession (sessionId : String) (child : Nat) (cols rows : Nat)
  | unregisterSession (sessionId : String)
  | unregisterConsole (sessionId consoleId : String)
  deriving DecidableEq, Repr

/-- What the IO loop reports to the state loop. -/
inductive AuthorityHostEvent where
  | childExited (sessionId : String)
  | ptyClosed (sessionId : String)
  deriving DecidableEq, Repr

def AuthorityHostEvent.sessionId : AuthorityHostEvent → String
  | .childExited sessionId => sessionId
  | .ptyClosed sessionId => sessionId

structure ConsoleState where
  cols : Nat
  rows : Nat
  deriving DecidableEq, Repr

/-- One hosted shell. -/
structure HostSessionState where
  child : Nat
  consoles : HashMap String ConsoleState := ∅
  activeConsole : Option String := none
  /-- the columns and rows of the grid that follows the terminal -/
  size : Nat × Nat
  /-- the size last set on the PTY -/
  ptySize : Nat × Nat

namespace HostSessionState

def new (child cols rows : Nat) : HostSessionState where
  child := child
  size := (cols, rows)
  ptySize := (cols, rows)

variable (panics : Nat × Nat → Bool)

/-- Set the size of the PTY and then of the grid. -/
def resizeTo (s : HostSessionState) (cols rows : Nat) : Option HostSessionState :=
  if panics (cols, rows) then none
  else some { s with ptySize := (cols, rows), size := (cols, rows) }

/-- A console asks for a size.  The local console keeps the terminal against
remote ones; otherwise the last request decides.  Nothing is set when the grid
has the size already; the answer tells whether something was. -/
def applyConsoleResize (s : HostSessionState) (consoleId : String) (cols rows : Nat) :
    Option (HostSessionState × Bool) :=
  let s := { s with consoles := s.consoles.insert consoleId { cols, rows } }
  if s.activeConsole = some "local" ∧ consoleId ≠ "local" then
    some (s, false)
  else
    let s := { s with activeConsole := some consoleId }
    if s.size = (cols, rows) then some (s, false)
    else (s.resizeTo panics cols rows).map fun s => (s, true)

/-- The console that decides next: the local one, else any.  `order` stands for
the order in which the consoles are visited. -/
def electActiveConsole (consoles : HashMap String ConsoleState) (order : Nat) : Option String :=
  if (consoles.lookup "local").isSome then some "local" else (consoles.keys.rotate order).head?

def unregisterConsole (s : HostSessionState) (order : Nat) (consoleId : String) :
    Option HostSessionState :=
  let wasActive := s.activeConsole = some consoleId
  let s := { s with consoles := s.consoles.erase consoleId }
  if wasActive then
    match electActiveConsole s.consoles order with
    | none => some { s with activeConsole := none }
    | some next =>
        match s.consoles.lookup next with
        | none => some { s with activeConsole := some next }
        | some console => (s.resizeTo panics console.cols console.rows).map fun s =>
            { s with activeConsole := some next }
  else
    some s

end HostSessionState

/-- The sessions of the IO loop, by their bare id. -/
structure AuthorityHostIoLoop where
  sessions : HashMap String HostSessionState := ∅

namespace AuthorityHostIoLoop

variable (panics : Nat × Nat → Bool)

/-- A session is changed, if it is known. -/
def update (io : AuthorityHostIoLoop) (sessionId : String)
    (f : HostSessionState → Option HostSessionState) : Option AuthorityHostIoLoop :=
  match io.sessions.lookup sessionId with
  | none => some io
  | some state => (f state).map fun state =>
      { sessions := io.sessions.insert sessionId state }

/-- Serve one request; requests about unknown sessions are dropped. -/
def drainRequest (io : AuthorityHostIoLoop) (order : Nat) :
    AuthorityHostIoRequest → Option AuthorityHostIoLoop
  | .resize sessionId consoleId cols rows =>
      io.update sessionId fun state =>
        (state.applyConsoleResize panics consoleId cols rows).map Prod.fst
  | .unregisterConsole sessionId consoleId =>
      io.update sessionId (·.unregisterConsole panics order consoleId)
  | .registerSession sessionId child cols rows =>
      some { sessions := io.sessions.insert sessionId (.new child cols rows) }
  | .unregisterSession sessionId =>
      some { sessions := io.sessions.erase sessionId }

end AuthorityHostIoLoop

end WaitAgent.Node
