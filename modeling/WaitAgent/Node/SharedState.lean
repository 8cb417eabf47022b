import WaitAgent.Domain.SessionCatalog
import WaitAgent.Verified.HashMap

/-!
# The state a node server shares between its loops

A node server keeps one catalog of all sessions it knows, its own and those of
peers, next to the runtimes of the sessions: terminals it runs itself, shells it
hosts for remote viewers (the *authority-host* sessions), and viewers of remote
sessions.  The catalog and the first and last of these are keyed by the
qualified target `authority:session`; the authority-host sessions alone are
keyed by the bare session id.

A child process is named by a number; the source holds its handle.
-/

namespace WaitAgent.Node

open Domain Verified

/-! ## The catalog -/

/-- The session catalog.  Every record stands under its own qualified target,
so there is never a second record for a target. -/
structure SessionMap where
  records : HashMap String ManagedSessionRecord
  keyed : ∀ t r, records.lookup t = some r → r.address.qualifiedTarget = t

namespace SessionMap

def empty : SessionMap where
  records := ∅
  keyed t r h := by simp at h

def get (m : SessionMap) (target : String) : Option ManagedSessionRecord :=
  m.records.lookup target

def values (m : SessionMap) : List ManagedSessionRecord :=
  m.records.values

def insert (m : SessionMap) (r : ManagedSessionRecord) : SessionMap where
  records := m.records.insert r.address.qualifiedTarget r
  keyed t r' h := by
    rw [AList.lookup_insert_eq_ite] at h
    split at h
    · rename_i hEq
      rw [← Option.some.inj h, hEq]
    · exact m.keyed t r' h

def remove (m : SessionMap) (target : String) : SessionMap where
  records := m.records.erase target
  keyed t r h := m.keyed t r (AList.lookup_of_erase h).2

def retain (m : SessionMap) (p : ManagedSessionRecord → Bool) : SessionMap where
  records := m.records.retain fun _ r => p r
  keyed t r h := by
    rw [AList.lookup_retain, Option.filter_eq_some_iff] at h
    exact m.keyed t r h.1

/-- Every record updated in place; what is written is not part of its address. -/
def modify (m : SessionMap) (f : ManagedSessionRecord → ManagedSessionRecord)
    (hf : ∀ r, (f r).address = r.address) : SessionMap where
  records := m.records.mapValues fun _ r => f r
  keyed t r h := by
    rw [AList.lookup_mapValues, Option.map_eq_some_iff] at h
    obtain ⟨r', hGet, rfl⟩ := h
    rw [hf]
    exact m.keyed t r' hGet

/-- The availability of the records that satisfy `p` set to `a`. -/
def setAvailability (m : SessionMap) (p : ManagedSessionRecord → Bool)
    (a : SessionAvailability) : SessionMap :=
  m.modify (fun r => if p r then { r with availability := a } else r) fun r => by
    split <;> rfl

/-- `values().find(|s| s.address.qualified_target() == target)`. -/
def findTarget (m : SessionMap) (target : String) : Option ManagedSessionRecord :=
  m.values.find? fun r => r.address.qualifiedTarget == target

variable {m : SessionMap} {t : String}

theorem qualifiedTarget_of_get {r : ManagedSessionRecord} (h : m.get t = some r) :
    r.address.qualifiedTarget = t :=
  m.keyed t r h

theorem get_insert (m : SessionMap) (r : ManagedSessionRecord) (t : String) :
    (m.insert r).get t = if t = r.address.qualifiedTarget then some r else m.get t :=
  AList.lookup_insert_eq_ite m.records _ t r

theorem get_remove (m : SessionMap) (target t : String) :
    (m.remove target).get t = if t = target then none else m.get t :=
  AList.lookup_erase_eq_ite m.records target t

@[simp] theorem get_modify (m : SessionMap) (f : ManagedSessionRecord → ManagedSessionRecord)
    (hf : ∀ r, (f r).address = r.address) (t : String) :
    (m.modify f hf).get t = (m.get t).map f :=
  AList.lookup_mapValues _ m.records t

theorem mem_values {r : ManagedSessionRecord} :
    r ∈ m.values ↔ m.get r.address.qualifiedTarget = some r := by
  rw [values, AList.mem_values_iff]
  constructor
  · rintro ⟨t, hLookup⟩
    rw [m.keyed t r hLookup]
    exact hLookup
  · exact fun h => ⟨_, h⟩

end SessionMap

/-! ## The shared state -/

/-- A terminal this server runs itself. -/
structure LocalSession where
  child : Nat
  size : Nat × Nat
  deriving DecidableEq, Repr

/-- A shell hosted for remote viewers; its terminal belongs to the IO loop. -/
structure AuthorityHostSession where
  child : Nat
  deriving DecidableEq, Repr

/-- A viewer of a remote session, as far as the state loop sees it. -/
structure RemoteSession where
  opened : Bool := false
  deriving DecidableEq, Repr

inductive RemoteNodeConnectionMode where
  | outboundDial
  | inboundConnect
  deriving DecidableEq, Repr

/-- What is needed to reconnect to a peer without bootstrapping it again. -/
structure RemoteNodeConnectionInfo where
  mode : RemoteNodeConnectionMode
  host : String
  port : Nat
  tlsPinSha256 : String := ""
  profileName : String := ""
  serverCanReachPeer : Bool := true
  via : Option RemoteNodeVia := none
  deriving DecidableEq, Repr

structure SharedState where
  port : Nat
  sessions : SessionMap := .empty
  activeTarget : Option String := none
  localSessions : HashMap String LocalSession := ∅
  /-- keyed by the bare session id, unlike the other maps -/
  authorityHostSessions : HashMap String AuthorityHostSession := ∅
  remoteSessions : HashMap String RemoteSession := ∅
  remoteNodeConnections : HashMap String RemoteNodeConnectionInfo := ∅
  lastClientResize : Option (Nat × Nat) := none
  clientCount : Nat := 0
  /-- the ingress server has installed its sender -/
  ingressInternalTx : Bool := false
  shutdown : Bool := false

namespace SharedState

/-- The authority of the sessions this server hosts. -/
def localAuthorityId (s : SharedState) : String :=
  "local#" ++ toString s.port

def localAddress (s : SharedState) (sessionId : String) : ManagedSessionAddress where
  transport := .localNode
  authorityId := s.localAuthorityId
  sessionId := sessionId

/-- The qualified target of the server's own session `sessionId`. -/
def localTarget (s : SharedState) (sessionId : String) : String :=
  (s.localAddress sessionId).qualifiedTarget

/-- The session id at the end of a target, if it is the id of an authority-host
session: the test by which the loop recognises such a session. -/
def hostSessionIn (s : SharedState) (target : String) : Option String :=
  ((rsplitOnce ':' target).map Prod.snd).filter fun id =>
    (s.authorityHostSessions.lookup id).isSome

/-- Take a session out of the catalog, and its runtime with it: the terminal if
it was one of the server's own, otherwise the viewer. -/
def forgetSession (s : SharedState) (target : String) : SharedState :=
  let wasLocal := (s.sessions.get target).any fun r => r.address.transport == .localNode
  let s := { s with sessions := s.sessions.remove target }
  if wasLocal then
    { s with
      localSessions := s.localSessions.erase target
      authorityHostSessions :=
        match rsplitOnce ':' target with
        | some (_, sessionId) => s.authorityHostSessions.erase sessionId
        | none => s.authorityHostSessions }
  else
    { s with remoteSessions := s.remoteSessions.erase target }

/-- The server's own live sessions.  `order` stands for the order in which the
catalog is visited. -/
def remainingLocal (s : SharedState) (order : Nat) : List String :=
  ((s.sessions.values.rotate order).filter fun r =>
    r.address.transport == .localNode && r.availability == .online).map
    (·.address.qualifiedTarget)

/-- Forget a session that exited.  The server then shows one of its own live
sessions, or shuts down when there is none. -/
def handleSessionExit (s : SharedState) (order : Nat) (target : String) : SharedState :=
  let s := s.forgetSession target
  let remaining := s.remainingLocal order
  match (remaining.find? (· != target)).or remaining.head? with
  | none => { s with shutdown := true, activeTarget := none }
  | some next => { s with activeTarget := some next }

/-- Take over what a peer published about one of its sessions. -/
def updateRemoteSessionRecord (s : SharedState) (record : ManagedSessionRecord) : SharedState :=
  if record.address.transport ≠ .remotePeer then
    s
  else
    let target := record.address.qualifiedTarget
    match s.sessions.get target with
    | some _ =>
        { s with
          sessions := s.sessions.modify
            (fun existing =>
              if existing.address.qualifiedTarget = target then
                { existing with
                  currentPath := record.currentPath
                  taskState := record.taskState
                  availability := record.availability
                  commandName := record.commandName
                  displayCommandName := record.displayCommandName
                  agentCommandName := record.agentCommandName
                  attachedClients := record.attachedClients
                  windowCount := record.windowCount }
              else existing)
            fun r => by split <;> rfl }
    | none => { s with sessions := s.sessions.insert record }

/-- One above the largest number in use as the id of an own session.  The sum
wraps at 64 bits. -/
def nextLocalSessionId (s : SharedState) : String :=
  let suffixes :=
    (s.sessions.records.keys.filterMap (stripPrefix (s.localAuthorityId ++ ":"))).filterMap parseU64
  toString ((suffixes.max?.getD 0 + 1) % 2 ^ 64)

/-- The name of the shell in the environment variable `SHELL`. -/
def shellCommandName (shell : Option String) : String :=
  ((shell.bind (rsplitOnce '/')).map Prod.snd).getD "bash"

/-- The record of a session the server has just started. -/
def localRecord (s : SharedState) (sessionId : String) (shell : Option String) :
    ManagedSessionRecord where
  address := s.localAddress sessionId
  availability := .online
  sessionRole := some .targetHost
  windowCount := 1
  commandName := some (shellCommandName shell)
  taskState := .input

/-- Start a terminal of the server's own.  `spawned` is the child process, or
why there is none. -/
def createLocalSession (s : SharedState) (spawned : Except String Nat) (shell : Option String)
    (sessionId : String) (cols rows : Nat) : Except String (SharedState × String) := do
  let target := s.localTarget sessionId
  let child ← spawned
  return ({ s with
    localSessions := s.localSessions.insert target { child, size := (cols, rows) }
    sessions := s.sessions.insert (s.localRecord sessionId shell)
    activeTarget := some target }, target)

/-- Start a shell for a remote viewer.  The caller hands its terminal to the IO
loop and enters it as an authority-host session. -/
def createAuthorityHostSession (s : SharedState) (spawned : Except String Nat)
    (shell : Option String) :
    Except String (SharedState × String × AuthorityHostSession × String) := do
  let id := s.nextLocalSessionId
  let target := s.localTarget id
  let child ← spawned
  return ({ s with
    sessions := s.sessions.insert (s.localRecord id shell)
    activeTarget := some target }, id, { child }, target)

def resizeActiveLocalSession (s : SharedState) (cols rows : Nat) : SharedState :=
  match s.activeTarget with
  | none => s
  | some target =>
      match s.localSessions.lookup target with
      | none => s
      | some session =>
          { s with localSessions :=
              s.localSessions.insert target { session with size := (cols, rows) } }

/-- Have a viewer for the record's session; `opened` is the outcome of opening
a new one. -/
def ensureRemoteSession (s : SharedState) (opened : Except String Unit)
    (record : ManagedSessionRecord) : Except String SharedState := do
  let target := record.address.qualifiedTarget
  if (s.remoteSessions.lookup target).isSome then
    return s
  else
    let _ ← opened
    return { s with remoteSessions := s.remoteSessions.insert target {} }

/-- Resize the viewer of the active target; the first resize opens it. -/
def resizeActiveRemoteSession (s : SharedState) : SharedState :=
  match s.activeTarget with
  | none => s
  | some target =>
      match s.remoteSessions.lookup target with
      | none => s
      | some session =>
          { s with
            remoteSessions := s.remoteSessions.insert target { session with opened := true } }

def recordRemoteNodeConnection (s : SharedState) (nodeId : String)
    (info : RemoteNodeConnectionInfo) : SharedState :=
  { s with remoteNodeConnections := s.remoteNodeConnections.insert nodeId info }

end SharedState

end WaitAgent.Node
