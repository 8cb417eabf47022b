import WaitAgent.Node.SessionRemoval
import WaitAgent.Remote.Discovery

/-!
# What a peer's publications do to the catalog

An envelope that the receiver lets through becomes events for the state loop.  A
publication gives a record under the target `node:session`; an exit closes the
session of that name.  Both parts of the name are chosen by the peer.

The catalog is keyed by the joined text, and neither handler looks at whose record
it finds.  So a node id or a session id with a colon, or a node id that is the
server's own authority, reaches records of others.  The name of an exit is
moreover taken apart again: a head is cut off, and the server's own node id is
replaced by its local authority.

The main result says when an envelope touches only records of its sender.
-/

namespace WaitAgent.Node

open Domain Verified Remote

/-- What the publication runtime is set up with, and the answer of the runtime
owner to it. -/
structure PublicationRuntime where
  advertisedNodeId : String
  discoverLiveWorkspaces : Bool := true
  registeredWorkspaceSockets : List String := []
  ownerAnswer : Except String Unit := .ok ()

namespace SharedState

def workspaceSocketName (s : SharedState) : String :=
  "ratatui-" ++ toString s.port

def liveWorkspaceSocketNames (s : SharedState) (r : PublicationRuntime) : List String :=
  if r.discoverLiveWorkspaces then [s.workspaceSocketName] else []

/-- The name in an exit without the head that tells the transport. -/
def withoutTransport (target : String) : String :=
  ((stripPrefix "remote-peer:" target).or (stripPrefix "local:" target)).getD target

/-- The key the name in an exit stands for: the server's own node id is replaced by
its local authority. -/
def exitedTarget (s : SharedState) (advertisedNodeId target : String) : String :=
  let qualified := withoutTransport target
  let parts := (rsplitOnce ':' qualified).getD (qualified, "")
  if parts.1 = advertisedNodeId then s.localAuthorityId ++ ":" ++ parts.2 else qualified

/-- A session of the server that no viewer asked for. -/
def isNodeOwnedLocalSession (s : SharedState) (target : String) : Bool :=
  (s.sessions.get target).any fun r =>
    r.address.authorityId == s.localAuthorityId && r.openedBy.isEmpty

/-- The event sent to the state loop for an exit, if any. -/
def signalRemoteTargetExited (s : SharedState) (advertisedNodeId socketName target : String) :
    Option StateEvent :=
  if socketName ≠ s.workspaceSocketName ∨ withoutTransport target = "" then
    none
  else if s.isNodeOwnedLocalSession (s.exitedTarget advertisedNodeId target) then
    none
  else
    some (.sessionClosed (s.exitedTarget advertisedNodeId target))

def signalRemoteTargetExitedToLiveWorkspaces (s : SharedState) (advertisedNodeId : String)
    (socketNames : List String) (target : String) : List StateEvent :=
  socketNames.filterMap fun socketName =>
    s.signalRemoteTargetExited advertisedNodeId socketName target

/-- What the state loop is told about an envelope.  The refreshes that follow change
nothing and are left out. -/
def applyDiscoveredRemoteSessionEnvelopeForSockets (s : SharedState) (r : PublicationRuntime)
    (nodeId : String) (envelope : ProtocolEnvelope) (liveWorkspaceSockets : List String) :
    Except String (List StateEvent) := do
  let discovered ← discoveredRemoteSessionFromEnvelope nodeId envelope
  match discovered.publishedSession, discovered.exitedSession with
  | some session, _ =>
      if session.address.transport = .remotePeer ∧ session.isTargetHost then
        r.ownerAnswer
        return [.remoteSessionCatalogUpdated session]
      else
        return []
  | none, some (authorityId, transportSessionId) =>
      r.ownerAnswer
      let target := authorityId ++ ":" ++ transportSessionId
      -- once with the removal from the owner, once for the sockets given
      return s.signalRemoteTargetExitedToLiveWorkspaces r.advertisedNodeId
          (s.liveWorkspaceSocketNames r) target
        ++ s.signalRemoteTargetExitedToLiveWorkspaces r.advertisedNodeId
          liveWorkspaceSockets target
  | none, none => return []

/-- What the state loop is told about a publication or an exit that was received on
a session of the node and is not stale. -/
def publicationEvents (s : SharedState) (r : PublicationRuntime) (nodeId : String)
    (envelope : GrpcNodeSessionEnvelope) (nowMillis : Nat) : Except String (List StateEvent) :=
  match envelope.body with
  | some (.targetPublished payload) => do
      let mapped ← mapTargetPublishedEnvelope nodeId envelope nowMillis payload
      s.applyDiscoveredRemoteSessionEnvelopeForSockets r nodeId mapped
        (s.liveWorkspaceSocketNames r)
  | some (.targetExited payload) =>
      s.applyDiscoveredRemoteSessionEnvelopeForSockets r nodeId
        (mapTargetExitedEnvelope nodeId envelope nowMillis payload) r.registeredWorkspaceSockets
  | _ => .ok []

end SharedState

/-! ## The events -/

/-- The key an envelope of the node names: that of the record it publishes, or of the
session that is gone. -/
def publicationKey (s : SharedState) (r : PublicationRuntime) (nodeId : String)
    (envelope : GrpcNodeSessionEnvelope) : String :=
  match envelope.body with
  | some (.targetPublished payload) => nodeId ++ ":" ++ payload.transportSessionId
  | some (.targetExited payload) =>
      s.exitedTarget r.advertisedNodeId (nodeId ++ ":" ++ payload.transportSessionId)
  | _ => ""

section

variable {s : SharedState} {r : PublicationRuntime} {nodeId : String}

theorem eq_of_mem_signals {socketNames : List String} {target : String} {e : StateEvent}
    (h : e ∈ s.signalRemoteTargetExitedToLiveWorkspaces r.advertisedNodeId socketNames target) :
    e = .sessionClosed (s.exitedTarget r.advertisedNodeId target) := by
  obtain ⟨socketName, -, hSent⟩ := List.mem_filterMap.mp h
  unfold SharedState.signalRemoteTargetExited at hSent
  split at hSent
  · cases hSent
  · split at hSent
    · cases hSent
    · exact (Option.some.inj hSent).symm

/-- A mapped publication leads to at most one event, with a record of the sender. -/
theorem mem_applied_published {envelope : ProtocolEnvelope} {payload : TargetPublishedPayload}
    {sockets : List String} {events : List StateEvent} {e : StateEvent}
    (hPayload : envelope.payload = .targetPublished payload)
    (h : s.applyDiscoveredRemoteSessionEnvelopeForSockets r nodeId envelope sockets = .ok events)
    (hMem : e ∈ events) :
    ∃ record, e = .remoteSessionCatalogUpdated record ∧
      record.address = ⟨.remotePeer, envelope.senderId, payload.transportSessionId⟩ := by
  obtain ⟨discovered, hFound, hEvents⟩ := bind_eq_ok.mp h
  rw [discoveredRemoteSessionFromEnvelope, hPayload] at hFound
  obtain ⟨record, hRecord, hFound⟩ := bind_eq_ok.mp hFound
  obtain rfl := Except.ok.inj hFound
  dsimp only at hEvents
  split at hEvents
  · obtain ⟨-, -, hEvents⟩ := bind_eq_ok.mp hEvents
    obtain rfl := Except.ok.inj hEvents
    exact ⟨record, List.mem_singleton.mp hMem, (isPublished_of_payload hRecord).address⟩
  · obtain rfl := Except.ok.inj hEvents
    exact absurd hMem List.not_mem_nil

theorem mem_applied_exited {envelope : ProtocolEnvelope} {payload : TargetExitedPayload}
    {sockets : List String} {events : List StateEvent} {e : StateEvent}
    (hPayload : envelope.payload = .targetExited payload)
    (h : s.applyDiscoveredRemoteSessionEnvelopeForSockets r nodeId envelope sockets = .ok events)
    (hMem : e ∈ events) :
    e = .sessionClosed
      (s.exitedTarget r.advertisedNodeId (nodeId ++ ":" ++ payload.transportSessionId)) := by
  obtain ⟨discovered, hFound, hEvents⟩ := bind_eq_ok.mp h
  rw [discoveredRemoteSessionFromEnvelope, hPayload] at hFound
  obtain rfl := Except.ok.inj hFound
  obtain ⟨-, -, hEvents⟩ := bind_eq_ok.mp hEvents
  obtain rfl := Except.ok.inj hEvents
  rcases List.mem_append.mp hMem with hRemoved | hExited
  · exact eq_of_mem_signals hRemoved
  · exact eq_of_mem_signals hExited

/-- **What an envelope tells the state loop**: to take over a record of its sender, or
to close a session. -/
theorem publicationEvents_cases {envelope : GrpcNodeSessionEnvelope} {nowMillis : Nat}
    {events : List StateEvent} {e : StateEvent}
    (h : s.publicationEvents r nodeId envelope nowMillis = .ok events) (hMem : e ∈ events) :
    (∃ record, e = .remoteSessionCatalogUpdated record ∧ isOfNode nodeId record = true ∧
      record.address.qualifiedTarget = publicationKey s r nodeId envelope) ∨
    e = .sessionClosed (publicationKey s r nodeId envelope) := by
  unfold SharedState.publicationEvents at h
  unfold publicationKey
  split at h
  · obtain ⟨mapped, hMapped, hEvents⟩ := bind_eq_ok.mp h
    unfold mapTargetPublishedEnvelope at hMapped
    split at hMapped
    · cases hMapped
    · obtain rfl := Except.ok.inj hMapped
      obtain ⟨record, rfl, hAddress⟩ := mem_applied_published rfl hEvents hMem
      refine .inl ⟨record, rfl, ?_, ?_⟩
      · rw [isOfNode, hAddress]
        simp [mapEnvelope]
      · rw [hAddress]
        rfl
  · rename_i payload _
    have hPayload : (mapTargetExitedEnvelope nodeId envelope nowMillis payload).payload
        = .targetExited ⟨payload.transportSessionId, payload.nodeInstanceId, payload.revision,
          none⟩ := rfl
    have hClosed := mem_applied_exited hPayload h hMem
    exact .inr hClosed
  · obtain rfl := Except.ok.inj h
    exact absurd hMem List.not_mem_nil

end

/-! ## What they do to the catalog -/

/-- Every record that is created, changed or removed is one of the node's. -/
def TouchesOnly (nodeId : String) (before after : SessionMap) : Prop :=
  ∀ key, after.get key ≠ before.get key → ∀ record,
    before.get key = some record ∨ after.get key = some record → isOfNode nodeId record = true

/-- What a record takes over from a publication. -/
def takenOver (record existing : ManagedSessionRecord) : ManagedSessionRecord :=
  { existing with
    currentPath := record.currentPath
    taskState := record.taskState
    availability := record.availability
    commandName := record.commandName
    displayCommandName := record.displayCommandName
    agentCommandName := record.agentCommandName
    attachedClients := record.attachedClients
    windowCount := record.windowCount }

/-- The record already says what is published. -/
structure Shows (record existing : ManagedSessionRecord) : Prop where
  currentPath : existing.currentPath = record.currentPath
  taskState : existing.taskState = record.taskState
  availability : existing.availability = record.availability
  commandName : existing.commandName = record.commandName
  displayCommandName : existing.displayCommandName = record.displayCommandName
  agentCommandName : existing.agentCommandName = record.agentCommandName
  attachedClients : existing.attachedClients = record.attachedClients
  windowCount : existing.windowCount = record.windowCount

theorem takenOver_eq_self {record existing : ManagedSessionRecord} :
    takenOver record existing = existing ↔ Shows record existing := by
  constructor
  · intro hSame
    rw [← hSame]
    exact ⟨rfl, rfl, rfl, rfl, rfl, rfl, rfl, rfl⟩
  · rintro ⟨h1, h2, h3, h4, h5, h6, h7, h8⟩
    rw [takenOver, ← h1, ← h2, ← h3, ← h4, ← h5, ← h6, ← h7, ← h8]

theorem get_updateRemoteSessionRecord (s : SharedState) {record : ManagedSessionRecord}
    (hRemote : record.address.transport = .remotePeer) (key : String) :
    (s.updateRemoteSessionRecord record).sessions.get key
      = if key = record.address.qualifiedTarget then
          some ((s.sessions.get key).elim record (takenOver record))
        else s.sessions.get key := by
  rw [SharedState.updateRemoteSessionRecord, if_neg (not_not.mpr hRemote)]
  dsimp only
  split
  · rename_i existing hGet
    rw [SessionMap.get_modify]
    by_cases hKey : key = record.address.qualifiedTarget
    · rw [if_pos hKey, hKey, hGet]
      exact congrArg some (if_pos (SessionMap.qualifiedTarget_of_get hGet))
    · rw [if_neg hKey]
      cases hOther : s.sessions.get key with
      | none => rfl
      | some other =>
        refine congrArg some (if_neg fun hEq => hKey ?_)
        rw [← SessionMap.qualifiedTarget_of_get hOther, hEq]
  · rename_i hGet
    rw [SessionMap.get_insert]
    by_cases hKey : key = record.address.qualifiedTarget
    · rw [if_pos hKey, if_pos hKey, hKey, hGet]
      rfl
    · rw [if_neg hKey, if_neg hKey]

/-- Taking over a record of the node touches only its records if the record found is
one of the node's, or says the same already. -/
theorem touchesOnly_update_iff {nodeId : String} (s : SharedState) {record : ManagedSessionRecord}
    (hOwn : isOfNode nodeId record = true) :
    TouchesOnly nodeId s.sessions (s.updateRemoteSessionRecord record).sessions ↔
      ∀ existing, s.sessions.get record.address.qualifiedTarget = some existing →
        isOfNode nodeId existing = true ∨ Shows record existing := by
  have hRemote : record.address.transport = .remotePeer := by
    simp only [isOfNode, Bool.and_eq_true, beq_iff_eq] at hOwn
    exact hOwn.1
  have hGet := get_updateRemoteSessionRecord s hRemote
  constructor
  · intro hTouches existing hFound
    by_cases hShows : Shows record existing
    · exact .inr hShows
    · refine .inl (hTouches _ ?_ existing (.inl hFound))
      rw [hGet, if_pos rfl, hFound]
      exact fun hSame => hShows (takenOver_eq_self.mp (Option.some.inj hSame))
  · intro hFound key hChanged touched hTouched
    have hKey : key = record.address.qualifiedTarget := by
      by_contra hNe
      exact hChanged (by rw [hGet, if_neg hNe])
    rw [hGet, if_pos hKey] at hChanged hTouched
    cases hBefore : s.sessions.get key with
    | none =>
      rw [hBefore] at hTouched
      rcases hTouched with hNone | hCreated
      · cases hNone
      · exact Option.some.inj hCreated ▸ hOwn
    | some existing =>
      rw [hBefore] at hTouched hChanged
      rcases hFound existing (hKey ▸ hBefore) with hExisting | hShows
      · rcases hTouched with hOld | hNew
        · exact Option.some.inj hOld ▸ hExisting
        · exact Option.some.inj hNew ▸ hExisting
      · exact absurd (congrArg some (takenOver_eq_self.mpr hShows)) hChanged

/-- Closing a session touches only records of the node if it finds no other. -/
theorem touchesOnly_remove_iff {nodeId target : String} (m : SessionMap) :
    TouchesOnly nodeId m (m.remove target) ↔
      ∀ existing, m.get target = some existing → isOfNode nodeId existing = true := by
  constructor
  · intro hTouches existing hFound
    refine hTouches target ?_ existing (.inl hFound)
    rw [SessionMap.get_remove, if_pos rfl, hFound]
    exact (Option.some_ne_none existing).symm
  · intro hFound key hChanged touched hTouched
    have hKey : key = target := by
      by_contra hNe
      exact hChanged (by rw [SessionMap.get_remove, if_neg hNe])
    subst hKey
    rw [SessionMap.get_remove, if_pos rfl] at hTouched
    rcases hTouched with hOld | hNone
    · exact hFound touched hOld
    · cases hNone

/-- An event that would write what the record says already. -/
def StateEvent.Repeats : StateEvent → ManagedSessionRecord → Prop
  | .remoteSessionCatalogUpdated record, existing => Shows record existing
  | _, _ => False

/-- **When a peer touches only its own records.**  The event is handled in any later
state of the loop.  It touches only records of the sender if and only if the record
it finds under the key, if there is one, is the sender's, or says already what is
published. -/
theorem publication_touches_own_iff {s : SharedState} {r : PublicationRuntime} {nodeId : String}
    {envelope : GrpcNodeSessionEnvelope} {nowMillis : Nat} {events : List StateEvent}
    {e : StateEvent} (h : s.publicationEvents r nodeId envelope nowMillis = .ok events)
    (hMem : e ∈ events) (l : StateLoop) (env : LoopEnv) :
    TouchesOnly nodeId l.shared.sessions (l.handle env e).1.shared.sessions ↔
      ∀ existing, l.shared.sessions.get (publicationKey s r nodeId envelope) = some existing →
        isOfNode nodeId existing = true ∨ e.Repeats existing := by
  rcases publicationEvents_cases h hMem with ⟨record, rfl, hOwn, hKey⟩ | rfl
  · rw [← hKey]
    exact touchesOnly_update_iff l.shared hOwn
  · show TouchesOnly _ _ (l.handleSessionClosed env _).1.shared.sessions ↔ _
    rw [StateLoop.handleSessionClosed_shared, SharedState.handleSessionExit_sessions,
      touchesOnly_remove_iff]
    simp only [StateEvent.Repeats, or_false]

/-- A session that runs `vim`, as a peer publishes it. -/
def publishesVim (sessionId : String) : GrpcNodeSessionEnvelope :=
  { messageId := "m", sessionInstanceId := "i",
    body := some (.targetPublished
      { targetId := "t", authorityNodeId := "", transport := "remote-peer",
        transportSessionId := sessionId, nodeInstanceId := "i", revision := 1,
        availability := "online", sessionRole := some "target-host",
        commandName := some "vim" }) }

def vimRecord (nodeId sessionId : String) : ManagedSessionRecord :=
  { address := ⟨.remotePeer, nodeId, sessionId⟩, availability := .online,
    sessionRole := some .targetHost, commandName := some "vim" }

def exits (sessionId : String) : GrpcNodeSessionEnvelope :=
  { messageId := "m", sessionInstanceId := "i",
    body := some (.targetExited
      { targetId := "t", transportSessionId := sessionId, nodeInstanceId := "i", revision := 1 }) }

/-- A server whose catalog has one record. -/
def holding (record : ManagedSessionRecord) : StateLoop :=
  { shared := { port := 7474, sessions := SessionMap.empty.insert record } }

def shellRecord (address : ManagedSessionAddress) : ManagedSessionRecord :=
  { address, availability := .online, commandName := some "bash" }

def localShell : ManagedSessionRecord :=
  shellRecord ⟨.localNode, "local#7474", "1"⟩

def shellOf (nodeId sessionId : String) : ManagedSessionRecord :=
  shellRecord ⟨.remotePeer, nodeId, sessionId⟩

def runtimeOf : PublicationRuntime :=
  { advertisedNodeId := "192.168.1.9#7474" }

theorem publication_touches_own_vim :
    TouchesOnly "peer" (holding localShell).shared.sessions
      ((holding localShell).handle {}
        (.remoteSessionCatalogUpdated (vimRecord "peer" "1"))).1.shared.sessions := by
  have hEvents : (holding localShell).shared.publicationEvents runtimeOf "peer"
      (publishesVim "1") 0 = .ok [.remoteSessionCatalogUpdated (vimRecord "peer" "1")] := rfl
  have hFree : (holding localShell).shared.sessions.get
      (publicationKey (holding localShell).shared runtimeOf "peer" (publishesVim "1")) = none := by
    decide
  refine (publication_touches_own_iff hEvents List.mem_cons_self _ {}).mpr fun _ hFound => ?_
  rw [hFree] at hFound
  cases hFound

/-- A peer that calls itself by the server's local authority overwrites a record of
the server.  One whose id has a colon overwrites a session of another peer, and one
whose id has the head of a transport closes it. -/
theorem publications_reach_others :
    ((holding localShell).shared.publicationEvents runtimeOf "local#7474" (publishesVim "1") 0
        = .ok [.remoteSessionCatalogUpdated (vimRecord "local#7474" "1")] ∧
      ¬ TouchesOnly "local#7474" (holding localShell).shared.sessions
        ((holding localShell).handle {}
          (.remoteSessionCatalogUpdated (vimRecord "local#7474" "1"))).1.shared.sessions) ∧
    ((holding (shellOf "a" "b:1")).shared.publicationEvents runtimeOf "a:b"
        (publishesVim "1") 0 = .ok [.remoteSessionCatalogUpdated (vimRecord "a:b" "1")] ∧
      ¬ TouchesOnly "a:b" (holding (shellOf "a" "b:1")).shared.sessions
        ((holding (shellOf "a" "b:1")).handle {}
          (.remoteSessionCatalogUpdated (vimRecord "a:b" "1"))).1.shared.sessions) ∧
    ((holding (shellOf "b" "1")).shared.publicationEvents runtimeOf "remote-peer:b"
        (exits "1") 0 = .ok [.sessionClosed "b:1"] ∧
      ¬ TouchesOnly "remote-peer:b" (holding (shellOf "b" "1")).shared.sessions
        ((holding (shellOf "b" "1")).handle {} (.sessionClosed "b:1")).1.shared.sessions) := by
  refine ⟨⟨rfl, fun h => ?_⟩, ⟨rfl, fun h => ?_⟩, rfl, fun h => ?_⟩
  · exact absurd (h "local#7474:1" (by decide) localShell (.inl (by decide))) (by decide)
  · exact absurd (h "a:b:1" (by decide) (shellOf "a" "b:1") (.inl (by decide))) (by decide)
  · exact absurd (h "b:1" (by decide) (shellOf "b" "1") (.inl (by decide))) (by decide)

end WaitAgent.Node
