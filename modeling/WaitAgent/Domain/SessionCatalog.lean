import WaitAgent.Verified.Text

/-!
# Managed sessions

The records every component of a node exchanges: where a session lives (its
transport, the authority that owns it and its id there), and what is known of
it.  The texts are the ones that go over the wire, with their parsers.
-/

namespace WaitAgent.Domain

open Verified

/-- Who runs the session: this node, or a peer. -/
inductive SessionTransport where
  | localNode
  | remotePeer
  deriving DecidableEq, Repr

/-- The head of every target id of a transport. -/
def SessionTransport.stablePrefix : SessionTransport → String
  | .localNode => "local"
  | .remotePeer => "remote-peer"

/-- The way to a peer. -/
inductive RemoteNodeVia where
  | auto
  | direct
  | relay
  deriving DecidableEq, Repr

/-- The name of a way in the history of hosts. -/
def RemoteNodeVia.asStr : RemoteNodeVia → String
  | auto => "auto"
  | direct => "direct"
  | relay => "relay"

/-- A session's address.  Its id is computed from the other fields and is
therefore not one of them. -/
structure ManagedSessionAddress where
  transport : SessionTransport
  authorityId : String
  sessionId : String
  deriving DecidableEq, Repr

namespace ManagedSessionAddress

/-- The key of the session in the catalogs. -/
def id (a : ManagedSessionAddress) : String :=
  a.transport.stablePrefix ++ ":" ++ a.authorityId ++ ":" ++ a.sessionId

/-- The name of the session for its users. -/
def qualifiedTarget (a : ManagedSessionAddress) : String :=
  a.authorityId ++ ":" ++ a.sessionId

end ManagedSessionAddress

/-- What the program in a session is doing. -/
inductive ManagedSessionTaskState where
  | running
  | input
  | confirm
  | unknown
  deriving DecidableEq, Repr

namespace ManagedSessionTaskState

/-- The text of the value, on the wire and in files. -/
def asStr : ManagedSessionTaskState → String
  | .running => "running"
  | .input => "input"
  | .confirm => "confirm"
  | .unknown => "unknown"

/-- Only those texts are read. -/
def parse (value : String) : Option ManagedSessionTaskState :=
  if value = "running" then some .running
  else if value = "input" then some .input
  else if value = "confirm" then some .confirm
  else if value = "unknown" then some .unknown
  else none

theorem parse_asStr (s : ManagedSessionTaskState) : parse s.asStr = some s := by
  cases s <;> decide

theorem asStr_of_parse {value : String} {s : ManagedSessionTaskState}
    (h : parse value = some s) : s.asStr = value := by
  unfold parse at h
  grind [asStr]

end ManagedSessionTaskState

/-- Whether a session can be reached. -/
inductive SessionAvailability where
  | online
  | offline
  | exited
  | unknown
  deriving DecidableEq, Repr

namespace SessionAvailability

/-- The text of the value, on the wire and in files. -/
def asStr : SessionAvailability → String
  | .online => "online"
  | .offline => "offline"
  | .exited => "exited"
  | .unknown => "unknown"

/-- Only those texts are read. -/
def parse (value : String) : Option SessionAvailability :=
  if value = "online" then some .online
  else if value = "offline" then some .offline
  else if value = "exited" then some .exited
  else if value = "unknown" then some .unknown
  else none

end SessionAvailability

/-- What a session is for. -/
inductive WorkspaceSessionRole where
  | workspaceChrome
  | targetHost
  deriving DecidableEq, Repr

namespace WorkspaceSessionRole

/-- The text of the value, on the wire and in files. -/
def asStr : WorkspaceSessionRole → String
  | .workspaceChrome => "workspace-chrome"
  | .targetHost => "target-host"

/-- Only those texts are read. -/
def parse (value : String) : Option WorkspaceSessionRole :=
  if value = "workspace-chrome" then some .workspaceChrome
  else if value = "target-host" then some .targetHost
  else none

end WorkspaceSessionRole

/-- Where a console is. -/
inductive ConsoleLocation where
  | localWorkspace
  | serverConsole
  deriving DecidableEq, Repr

/-- A console that has a session open. -/
structure ConsoleAttachment where
  consoleId : String
  location : ConsoleLocation
  hasPtyResizeAuthority : Bool
  deriving DecidableEq, Repr

/-- What the catalog holds about one session. -/
structure ManagedSessionRecord where
  address : ManagedSessionAddress
  selector : Option String := none
  availability : SessionAvailability
  workspaceDir : Option String := none
  workspaceKey : Option String := none
  sessionRole : Option WorkspaceSessionRole := none
  openedBy : List ConsoleAttachment := []
  attachedClients : Nat := 0
  windowCount : Nat := 0
  commandName : Option String := none
  displayCommandName : Option String := none
  agentCommandName : Option String := none
  currentPath : Option String := none
  taskState : ManagedSessionTaskState := .unknown
  deriving DecidableEq, Repr

/-- The session runs a target. -/
def ManagedSessionRecord.isTargetHost (r : ManagedSessionRecord) : Bool :=
  r.sessionRole == some .targetHost

/-- The shells whose prompts count as interactive. -/
def shellNames : List String :=
  ["bash", "zsh", "fish", "sh"]

end WaitAgent.Domain
