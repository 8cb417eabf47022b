import Mathlib.Data.List.Chain
import WaitAgent.Remote.Ingress
import WaitAgent.Verified.Run

/-!
# Online and offline signals

A node is signalled online when a session is opened and it had none, and offline when an event
about it finds it without a session.  Four handlers change the sessions, and each decides by
itself what to signal; `Change` says what they have in common.  It follows that the last
signal for a node says whether it has a session, and that no two online signals follow
each other.
-/

namespace WaitAgent.Remote

open Verified Domain

/-- What an effect signals for the node. -/
def IngressEffect.signalFor (n : String) : IngressEffect → Option Bool
  | .nodeOnline m => if m = n then some true else none
  | .nodeOffline m => if m = n then some false else none
  | _ => none

/-- What the transport sends: the events of a session come with its own node.  A dial that
fails has no session, and a listener that fails has neither. -/
inductive RemoteNodeTransportEvent.Emitted (owner : String → String) :
    RemoteNodeTransportEvent → Prop where
  | opened (session : RemoteNodeSessionHandle)
      (hOwner : session.nodeId = owner session.sessionInstanceId) :
      Emitted owner (.sessionOpened session)
  | received (id : String) (envelope : GrpcNodeSessionEnvelope) :
      Emitted owner (.envelopeReceived (owner id) id envelope)
  | closed (id : String) : Emitted owner (.sessionClosed (owner id) id)
  | failed (id : String) : Emitted owner (.transportFailed (some (owner id)) (some id))
  | dialFailed (nodeId : String) : Emitted owner (.transportFailed (some nodeId) none)
  | listenFailed : Emitted owner (.transportFailed none none)

namespace Ingress

/-- The transport events among the inputs are sent for the sessions of `owner`. -/
def Input.EmittedFor (owner : String → String) : Input → Prop
  | .event _ (.transport sent) => sent.Emitted owner
  | _ => True

variable {owner : String → String} {s s' : Ingress} {n : String}

/-- The node of a session. -/
def nodeOf (s : Ingress) (id : String) : Option String :=
  (s.sessions.lookup id).map fun active => active.session.nodeId

/-- The signals for a node so far, oldest first. -/
def signalsFor (s : Ingress) (n : String) : List Bool :=
  s.log.filterMap (IngressEffect.signalFor n)

theorem hasActive_iff :
    s.hasActiveIngressSessionForNode n = true ↔ ∃ id, s.nodeOf id = some n := by
  simp only [hasActiveIngressSessionForNode, List.any_eq_true, AList.mem_values_iff, beq_iff_eq,
    nodeOf, Option.map_eq_some_iff]
  constructor
  · rintro ⟨active, ⟨id, hLookup⟩, hNode⟩
    exact ⟨id, active, hLookup, hNode⟩
  · rintro ⟨id, active, hLookup, hNode⟩
    exact ⟨active, ⟨id, hLookup⟩, hNode⟩

/-! ## What an event does -/

/-- The sessions and the signals after an event. -/
inductive Change (owner : String → String) (s s' : Ingress) : Prop where
  | same (hNodes : ∀ id, s'.nodeOf id = s.nodeOf id)
      (hSignals : ∀ n, s'.signalsFor n = s.signalsFor n)
  | opens (id : String)
      (hNodes : ∀ k, s'.nodeOf k = if k = id then some (owner id) else s.nodeOf k)
      (hSignals : ∀ n, s'.signalsFor n = s.signalsFor n ++
        if n = owner id ∧ s.hasActiveIngressSessionForNode n = false then [true] else [])
  /-- Sessions of one node end, and it is looked whether one is left. -/
  | ends (ids : List String) (node : String)
      (hOf : ∀ id ∈ ids, ∀ m, s.nodeOf id = some m → m = node)
      (hNodes : ∀ k, s'.nodeOf k = if k ∈ ids then none else s.nodeOf k)
      (hSignals : ∀ n, s'.signalsFor n = s.signalsFor n ++
        if n = node ∧ s'.hasActiveIngressSessionForNode n = false then [false] else [])

theorem change_opened (printable : Char → Bool) (env : Env) (s : Ingress)
    (session : RemoteNodeSessionHandle)
    (hOwner : session.nodeId = owner session.sessionInstanceId) :
    Change owner s (s.handleTransportEvent printable env (.sessionOpened session)) := by
  refine .opens session.sessionInstanceId (fun k => ?_) fun n => ?_
  · have hBaseline (active : ActiveNodeIngressSession) :
        (publishLocalCatalogBaseline env active).session = active.session := by
      unfold publishLocalCatalogBaseline
      dsimp only
      split <;> rfl
    simp only [handleTransportEvent, handleSessionOpened, nodeOf, AList.lookup_insert_eq_ite]
    split_ifs
    · simp only [Option.map_some, refreshAuthorityBridges, hBaseline, hOwner]
    · rfl
  · simp only [handleTransportEvent, handleSessionOpened, signalsFor, List.filterMap_append]
    rw [← hOwner]
    cases hActive : s.hasActiveIngressSessionForNode session.nodeId with
    | true =>
      have hOther : ¬(n = session.nodeId ∧ s.hasActiveIngressSessionForNode n = false) := by
        rintro ⟨rfl, hNone⟩
        rw [hActive] at hNone
        cases hNone
      simp [if_neg hOther]
    | false =>
      by_cases hNode : n = session.nodeId
      · simp [IngressEffect.signalFor, hNode, hActive]
      · simp [IngressEffect.signalFor, hNode, Ne.symm hNode]

/-- The last step of three handlers. -/
theorem signalsFor_markOffline (s : Ingress) (nodeId n : String) :
    (s.markDiscoveredNodeOfflineIfLastIngressSession nodeId).signalsFor n = s.signalsFor n ++
      if n = nodeId ∧ s.hasActiveIngressSessionForNode n = false then [false] else [] := by
  unfold markDiscoveredNodeOfflineIfLastIngressSession
  split_ifs with hActive hNode hNode
  · exact absurd (hNode.1 ▸ hNode.2) (by simp [hActive])
  · rw [List.append_nil]
  · simp [signalsFor, IngressEffect.signalFor, hNode.1]
  · have hOther : nodeId ≠ n := by
      rintro rfl
      exact hNode ⟨rfl, by simpa using hActive⟩
    simp [signalsFor, IngressEffect.signalFor, hOther]

theorem change_markOffline (ids : List String) {node : String}
    (hOf : ∀ id ∈ ids, ∀ m, s.nodeOf id = some m → m = node)
    (hNodes : ∀ k, s'.nodeOf k = if k ∈ ids then none else s.nodeOf k) (hLog : s'.log = s.log) :
    Change owner s (s'.markDiscoveredNodeOfflineIfLastIngressSession node) := by
  have hSessions : (s'.markDiscoveredNodeOfflineIfLastIngressSession node).sessions =
      s'.sessions := by
    unfold markDiscoveredNodeOfflineIfLastIngressSession
    split <;> rfl
  refine .ends ids node hOf (fun k => ?_) fun n => ?_
  · rw [← hNodes, nodeOf, hSessions, nodeOf]
  · rw [signalsFor_markOffline, hasActiveIngressSessionForNode, hasActiveIngressSessionForNode,
      hSessions, signalsFor, hLog, signalsFor]

theorem nodeOf_removeSession (s : Ingress) (id k : String) :
    (s.removeSession id).nodeOf k = if k = id then none else s.nodeOf k := by
  simp only [nodeOf, removeSession, AList.lookup_erase_eq_ite]
  split_ifs <;> rfl

theorem nodeOf_removeSessions (ids : List String) (s : Ingress) (k : String) :
    (ids.foldl removeSession s).nodeOf k = if k ∈ ids then none else s.nodeOf k := by
  induction ids generalizing s with
  | nil => simp
  | cons id ids ih =>
    rw [List.foldl_cons, ih, nodeOf_removeSession]
    by_cases hMem : k ∈ ids <;> by_cases hHead : k = id <;> simp [hMem, hHead]

theorem log_removeSessions (ids : List String) (s : Ingress) :
    (ids.foldl removeSession s).log = s.log := by
  induction ids generalizing s with
  | nil => rfl
  | cons id ids ih => rw [List.foldl_cons, ih]; rfl

/-- Only sessions of the node are evicted. -/
theorem nodeOf_evicted {now : Nat} {nodeId id : String}
    (h : id ∈ s.evictedInstanceIds now nodeId) : s.nodeOf id = some nodeId := by
  obtain ⟨e, he, hEq⟩ := List.mem_filterMap.mp h
  simp only [Option.ite_none_right_eq_some, Option.some.injEq] at hEq
  obtain ⟨⟨hNode, -⟩, rfl⟩ := hEq
  rw [nodeOf, AList.lookup_eq_some_iff.mpr he, Option.map_some, hNode]

theorem change_evicted (env : Env) (s : Ingress) (nodeId : String) (cancel : Bool) :
    Change owner s (s.closeIngressSessionsForNode env nodeId cancel) := by
  unfold closeIngressSessionsForNode
  generalize hKept : (if cancel then
    ({ s with
      pendingOutboundDials := s.pendingOutboundDials.erase nodeId
      pendingOutboundGuards := s.pendingOutboundGuards.erase nodeId } : Ingress) else s) = kept
  have hNodes : kept.nodeOf = s.nodeOf := by
    subst hKept
    split <;> rfl
  have hLog : kept.log = s.log := by
    subst hKept
    split <;> rfl
  dsimp only
  split
  · refine change_markOffline (kept.evictedInstanceIds env.now nodeId)
      (fun id hMem m hNode => ?_) (fun k => ?_) ((log_removeSessions _ _).trans hLog)
    · rw [← hNodes, nodeOf_evicted hMem] at hNode
      exact (Option.some.inj hNode).symm
    · rw [nodeOf_removeSessions, hNodes]
  · next hNothing =>
    have hNone : kept.evictedInstanceIds env.now nodeId = [] := by
      simp only [Bool.or_eq_true, Bool.not_eq_true', not_or, List.isEmpty_eq_false_iff,
        ne_eq, not_not] at hNothing
      exact hNothing.1
    rw [hNone]
    refine .same (congrFun hNodes) fun n => ?_
    rw [List.foldl_nil, signalsFor, hLog, signalsFor]

/-! ### Envelopes -/

/-- Of the session the node stays, and nothing is signalled. -/
def Quiet (session : Option ActiveNodeIngressSession) (handled : Handled) : Prop :=
  handled.session.map (·.session.nodeId) = session.map (·.session.nodeId) ∧
    ∀ n, handled.effects.filterMap (IngressEffect.signalFor n) = []

theorem signals_sendPublicationAck (env : Env) (session : Option ActiveNodeIngressSession)
    (payload : GrpcTargetPublicationAck) (n : String) :
    (sendPublicationAck env session payload).filterMap (IngressEffect.signalFor n) = [] := by
  unfold sendPublicationAck
  split
  · rfl
  · split
    · rfl
    · split <;> rfl

theorem quiet_applyAndAck (env : Env) (key : PublicationRevisionKey) (revision : Nat)
    (mapped : ProtocolEnvelope) (sockets : Option (Finset String))
    (session : Option ActiveNodeIngressSession) (table : ReceiverPublicationRevisionTable) :
    Quiet session (applyAndAck env key revision mapped sockets session table) := by
  unfold applyAndAck
  split <;> exact ⟨rfl, fun n => signals_sendPublicationAck env session _ n⟩

theorem Quiet.map {session : Option ActiveNodeIngressSession}
    {f : ActiveNodeIngressSession → ActiveNodeIngressSession} {handled : Handled}
    (h : Quiet (session.map f) handled) (hf : ∀ active, (f active).session = active.session) :
    Quiet session handled := by
  refine ⟨h.1.trans ?_, h.2⟩
  rw [Option.map_map]
  cases session with
  | none => rfl
  | some active => simp only [Option.map_some, Function.comp_apply, hf]

theorem quiet_routeTransportEnvelope (printable : Char → Bool) (env : Env) (nodeId : String)
    (envelope : GrpcNodeSessionEnvelope) (session : Option ActiveNodeIngressSession)
    (sockets : Finset String) (table : ReceiverPublicationRevisionTable) :
    Quiet session
      (routeTransportEnvelope printable env nodeId envelope session sockets table) := by
  have hAcked (payload : GrpcTargetPublicationAck) :
      Quiet session ⟨session, table, sendPublicationAck env session payload, .ok ()⟩ :=
    ⟨rfl, fun n => signals_sendPublicationAck env session payload n⟩
  unfold routeTransportEnvelope
  split
  · unfold handleTargetPublished
    dsimp only
    split
    · exact hAcked _
    · split
      · exact hAcked _
      · split
        · exact Quiet.map (f := rememberFingerprint printable _) ⟨rfl, fun _ => rfl⟩ fun _ => rfl
        · exact (quiet_applyAndAck env _ _ _ none _ table).map fun _ => rfl
  · unfold handleTargetPublicationAck
    split
    · exact ⟨rfl, fun _ => rfl⟩
    · refine ⟨?_, fun _ => rfl⟩
      dsimp only
      split
      · rw [Option.map_map]
        rfl
      · rfl
  · unfold handleTargetExited
    dsimp only
    split
    · exact hAcked _
    · split
      · exact quiet_applyAndAck env _ _ _ _ session table
      · refine ⟨?_, (quiet_applyAndAck env _ _ _ _ session table).2⟩
        rw [Option.map_map]
        exact (quiet_applyAndAck env _ _ _ _ session table).1
  · refine ⟨?_, fun _ => rfl⟩
    rw [Option.map_map]
    rfl
  · exact ⟨rfl, fun _ => rfl⟩

theorem change_envelope (printable : Char → Bool) (env : Env) (s : Ingress) (nodeId id : String)
    (envelope : GrpcNodeSessionEnvelope) :
    Change owner s (s.handleEnvelopeReceived printable env nodeId id envelope) := by
  have hQuiet := quiet_routeTransportEnvelope printable env nodeId envelope
    (s.sessions.lookup id) s.registeredWorkspaceSockets s.publicationRevisions
  unfold handleEnvelopeReceived
  split
  · exact .same (fun _ => rfl) fun _ => rfl
  · refine .same (fun k => ?_) fun n => ?_
    · dsimp only [nodeOf]
      split
      · next active hActive =>
        rw [AList.lookup_insert_eq_ite]
        split_ifs with hKey
        · rw [hKey, ← hQuiet.1, hActive]
        · rfl
      · rfl
    · simp only [signalsFor, List.filterMap_append, hQuiet.2, List.append_nil]

/-! ### All inputs -/

theorem change_updateSessions (s : Ingress) (p : ActiveNodeIngressSession → Bool)
    {f : ActiveNodeIngressSession → ActiveNodeIngressSession}
    (hf : ∀ active, (f active).session = active.session) :
    Change owner s (s.updateSessions p f) := by
  refine .same (fun k => ?_) fun _ => rfl
  rw [nodeOf, updateSessions, AList.lookup_mapValues, Option.map_map, nodeOf]
  cases s.sessions.lookup k with
  | none => rfl
  | some active =>
    simp only [Option.map_some, Function.comp_apply]
    split_ifs
    · rw [hf]
    · rfl

theorem change_internal (env : Env) (s : Ingress) (event : InternalEvent) :
    Change owner s (s.handleInternalEvent env event) := by
  cases event with
  | closeNodeIngressSession nodeId cancel => exact change_evicted env s nodeId cancel
  | bridgeClosed | authoritySocketReady | refreshSockets =>
    exact change_updateSessions s _ fun _ => rfl
  | localCatalogChanged =>
    refine change_updateSessions s _ fun active => ?_
    unfold publishLocalCatalogDelta
    split <;> rfl
  | initiateOutboundConnection nodeId =>
    simp only [handleInternalEvent]
    split <;> exact .same (fun _ => rfl) fun _ => rfl
  | registerWorkspaceSocket | unregisterWorkspaceSocket =>
    exact .same (fun _ => rfl) fun _ => rfl

/-- The sessions are those of `owner`. -/
def OwnedBy (owner : String → String) (s : Ingress) : Prop :=
  ∀ id m, s.nodeOf id = some m → m = owner id

theorem change_transport (printable : Char → Bool) (env : Env) (hOwned : s.OwnedBy owner)
    {event : RemoteNodeTransportEvent} (hEvent : event.Emitted owner) :
    Change owner s (s.handleTransportEvent printable env event) := by
  cases hEvent with
  | opened session hOwner => exact change_opened printable env s session hOwner
  | received id envelope => exact change_envelope printable env s (owner id) id envelope
  | closed id | failed id =>
    refine change_markOffline [id] (fun k hMem m hNode => ?_) (fun k => ?_) rfl
    · rw [← List.mem_singleton.mp hMem]
      exact hOwned k m hNode
    · simp only [List.mem_singleton]
      exact nodeOf_removeSession s id k
  | dialFailed nodeId =>
    exact change_markOffline [] (by simp) (fun k => by simp [nodeOf]) rfl
  | listenFailed => exact .same (fun _ => rfl) fun _ => rfl

theorem change_step (printable : Char → Bool) (hOwned : s.OwnedBy owner) {input : Input}
    (hInput : input.EmittedFor owner) : Change owner s (s.step printable input) := by
  cases input with
  | guard nodeId result => cases result <;> exact .same (fun _ => rfl) fun _ => rfl
  | event env event =>
    cases event with
    | internal event => exact change_internal env s event
    | transport event => exact change_transport printable env hOwned hInput

/-! ## Every run -/

/-- The last signal for the node says whether it has a session, and it is not signalled
online twice in a row. -/
structure Tracks (s : Ingress) (n : String) : Prop where
  last : (s.signalsFor n).getLast? = some true ↔ s.hasActiveIngressSessionForNode n = true
  apart : (s.signalsFor n).IsChain fun a b => ¬(a = true ∧ b = true)

theorem Change.ownedBy (h : Change owner s s') (hOwned : s.OwnedBy owner) : s'.OwnedBy owner := by
  intro id m hNode
  cases h with
  | same hNodes => exact hOwned id m (hNodes id ▸ hNode)
  | opens opened hNodes =>
    rw [hNodes] at hNode
    split_ifs at hNode with hKey
    · rw [hKey]
      exact (Option.some.inj hNode).symm
    · exact hOwned id m hNode
  | ends ids node hOf hNodes =>
    rw [hNodes] at hNode
    split_ifs at hNode
    exact hOwned id m hNode

/-- What an event does to the question whether a node has a session. -/
theorem Change.hasActive (h : Change owner s s') (hOwned : s.OwnedBy owner) (n : String) :
    (s'.signalsFor n = s.signalsFor n ∧
        s'.hasActiveIngressSessionForNode n = s.hasActiveIngressSessionForNode n) ∨
      (s'.signalsFor n = s.signalsFor n ++ [true] ∧
        s.hasActiveIngressSessionForNode n = false ∧
        s'.hasActiveIngressSessionForNode n = true) ∨
      (s'.signalsFor n = s.signalsFor n ++ [false] ∧
        s'.hasActiveIngressSessionForNode n = false) := by
  have hSame (hIff : (∃ id, s'.nodeOf id = some n) ↔ ∃ id, s.nodeOf id = some n) :
      s'.hasActiveIngressSessionForNode n = s.hasActiveIngressSessionForNode n := by
    rw [Bool.eq_iff_iff, hasActive_iff, hasActive_iff, hIff]
  cases h with
  | same hNodes hSignals => exact .inl ⟨hSignals n, hSame (by simp only [hNodes])⟩
  | opens id hNodes hSignals =>
    by_cases hNode : n = owner id
    · have hAfter : s'.hasActiveIngressSessionForNode n = true :=
        hasActive_iff.mpr ⟨id, by rw [hNodes, if_pos rfl, hNode]⟩
      cases hActive : s.hasActiveIngressSessionForNode n with
      | true => exact .inl ⟨by simp [hSignals, hActive], hAfter⟩
      | false => exact .inr (.inl ⟨by simp [hSignals, hActive, hNode.symm], rfl, hAfter⟩)
    · refine .inl ⟨by simp [hSignals, hNode], hSame (exists_congr fun k => ?_)⟩
      rw [hNodes]
      split_ifs with hKey
      · -- the entry that is replaced, if there is one, is of the same node
        refine iff_of_false (fun hEq => hNode (Option.some.inj hEq).symm) fun hEq => ?_
        exact hNode (hKey ▸ hOwned k n hEq)
      · rfl
  | ends ids node hOf hNodes hSignals =>
    by_cases hNode : n = node
    · cases hAfter : s'.hasActiveIngressSessionForNode n with
      | false => exact .inr (.inr ⟨by simp [hSignals, hAfter, hNode.symm], rfl⟩)
      | true =>
        refine .inl ⟨by simp [hSignals, hAfter], ?_⟩
        obtain ⟨id, hId⟩ := hasActive_iff.mp hAfter
        rw [hNodes] at hId
        split_ifs at hId
        exact (hasActive_iff.mpr ⟨id, hId⟩).symm
    · refine .inl ⟨by simp [hSignals, hNode], hSame (exists_congr fun k => ?_)⟩
      rw [hNodes]
      split_ifs with hMem
      · exact iff_of_false (fun hEq => by cases hEq) fun hEq => hNode (hOf k hMem n hEq)
      · rfl

theorem Change.tracks (h : Change owner s s') (hOwned : s.OwnedBy owner) (hTracks : s.Tracks n) :
    s'.Tracks n := by
  rcases h.hasActive hOwned n with ⟨hSignals, hActive⟩ | ⟨hSignals, hBefore, hAfter⟩ |
    ⟨hSignals, hAfter⟩
  · exact ⟨by rw [hSignals, hActive]; exact hTracks.last, by rw [hSignals]; exact hTracks.apart⟩
  · refine ⟨by simp [hSignals, hAfter], ?_⟩
    have hLast : (s.signalsFor n).getLast? ≠ some true := by
      rw [Ne, hTracks.last, hBefore]
      decide
    rw [hSignals, List.isChain_append]
    refine ⟨hTracks.apart, List.isChain_singleton _, fun a ha b _ hBoth => hLast ?_⟩
    rw [← hBoth.1]
    exact ha
  · refine ⟨by simp [hSignals, hAfter], ?_⟩
    rw [hSignals, List.isChain_append]
    refine ⟨hTracks.apart, List.isChain_singleton _, fun a _ b hb hBoth => ?_⟩
    obtain rfl : false = b := by simpa using hb
    cases hBoth.2

/-- In every run the signals for every node follow its sessions. -/
theorem signals_track_sessions (printable : Char → Bool) (owner : String → String)
    (inputs : List Input) (hInputs : ∀ input ∈ inputs, input.EmittedFor owner) :
    Always (step printable) (fun s => ∀ n, s.Tracks n) {} inputs := by
  refine Always.of_eachStep (I := fun s : Ingress => s.OwnedBy owner ∧ ∀ n, s.Tracks n)
    (P := fun _ input => input.EmittedFor owner) ?_ (fun s h => h.2) inputs {}
    (EachStep.of_forall inputs _ fun input hMem _ => hInputs input hMem) ?_
  · rintro s input ⟨hOwned, hTracks⟩ hInput
    have hChange := change_step printable hOwned hInput
    exact ⟨hChange.ownedBy hOwned, fun n => hChange.tracks hOwned (hTracks n)⟩
  · refine ⟨fun _ _ hNode => (by cases hNode), fun _ => ⟨?_, List.isChain_nil⟩⟩
    exact iff_of_false (fun hLast => by cases hLast) fun hActive => by cases hActive

/-- Two sessions of a node, one of which fails and is reported closed as well; the other
is evicted, and a third one is opened. -/
def twoSessions : List Input :=
  let opened (id : String) : Input :=
    .event {} (.transport (.sessionOpened { nodeId := "a", sessionInstanceId := id }))
  [opened "1", opened "2", .event {} (.transport (.transportFailed (some "a") (some "1"))),
    .event {} (.transport (.sessionClosed "a" "1")),
    .event { now := sessionEvictionGrace } (.internal (.closeNodeIngressSession "a" false)),
    opened "3"]

theorem two_sessions_tracked :
    Always (step fun _ => true) (fun s => ∀ n, s.Tracks n) {} twoSessions ∧
      (run (step fun _ => true) {} twoSessions).signalsFor "a" = [true, false, true] := by
  refine ⟨signals_track_sessions (fun _ => true) (fun _ => "a") twoSessions ?_, by decide +kernel⟩
  simp only [twoSessions, List.forall_mem_cons, List.not_mem_nil, false_imp_iff, implies_true,
    and_true]
  exact ⟨.opened _ rfl, .opened _ rfl, .failed _, .closed _, trivial, .opened _ rfl⟩

end Ingress

end WaitAgent.Remote
