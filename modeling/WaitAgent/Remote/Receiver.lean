import WaitAgent.Remote.SessionSync
import Mathlib.Data.Finset.Basic

/-!
# The receiver of publications

What a node does with the publications of a peer: the table of applied
revisions, the per-session fingerprints of published targets, and the two
handlers that apply a publication and acknowledge it.  Calls into the
publication runtime and sends on the session may fail; their outcomes are
given by `Env`, and what the handler did is reported as a list of effects in
order.
-/

namespace WaitAgent.Remote

open Verified Domain

/-! ## The revision table -/

structure PublicationRevisionKey where
  nodeId : String
  nodeInstanceId : String
  targetId : String
  deriving DecidableEq, Repr

structure ReceiverPublicationRevisionTable where
  latestApplied : HashMap PublicationRevisionKey Nat := ∅

inductive PublicationRevisionDecision where
  | legacy
  | apply
  | stale
  deriving DecidableEq, Repr

/-- Publications without an instance id or a revision are not numbered. -/
def isLegacy (nodeInstanceId : String) (revision : Nat) : Bool :=
  nodeInstanceId.isEmpty || revision == 0

namespace ReceiverPublicationRevisionTable

def decision (table : ReceiverPublicationRevisionTable) (key : PublicationRevisionKey)
    (revision : Nat) : PublicationRevisionDecision :=
  if isLegacy key.nodeInstanceId revision then
    .legacy
  else
    match table.latestApplied.lookup key with
    | some latest => if revision ≤ latest then .stale else .apply
    | none => .apply

def markApplied (table : ReceiverPublicationRevisionTable) (key : PublicationRevisionKey)
    (revision : Nat) : ReceiverPublicationRevisionTable :=
  if isLegacy key.nodeInstanceId revision then
    table
  else
    let next :=
      match table.latestApplied.lookup key with
      | some latest => max latest revision
      | none => revision
    { table with latestApplied := table.latestApplied.insert key next }

/-- The latest applied revision of a key, `0` if there is none. -/
def latest (table : ReceiverPublicationRevisionTable) (key : PublicationRevisionKey) : Nat :=
  (table.latestApplied.lookup key).getD 0

variable {table : ReceiverPublicationRevisionTable} {key : PublicationRevisionKey} {rev : Nat}

theorem decision_eq_legacy_iff :
    table.decision key rev = .legacy ↔ isLegacy key.nodeInstanceId rev = true := by
  unfold decision
  split
  · simp [*]
  · split
    · split <;> simp [*]
    · simp [*]

/-- A numbered publication is applied exactly when it is newer than everything
applied under its key. -/
theorem decision_eq_apply_iff :
    table.decision key rev = .apply ↔
      isLegacy key.nodeInstanceId rev = false ∧ table.latest key < rev := by
  unfold decision latest
  by_cases hLegacy : isLegacy key.nodeInstanceId rev
  · simp [hLegacy]
  · have hPos : 0 < rev := by
      simp only [isLegacy, Bool.or_eq_true, beq_iff_eq, not_or] at hLegacy
      omega
    cases hLookup : table.latestApplied.lookup key with
    | none => simp [hLegacy, hPos]
    | some latest =>
      by_cases hLe : rev ≤ latest
      · simp [hLegacy, hLe]
      · simp [hLegacy, hLe]
        omega

theorem decision_eq_stale_iff :
    table.decision key rev = .stale ↔
      isLegacy key.nodeInstanceId rev = false ∧ rev ≤ table.latest key := by
  have hLegacy := @decision_eq_legacy_iff table key rev
  have hApply := @decision_eq_apply_iff table key rev
  cases hDecision : table.decision key rev with
  | legacy => simp [hLegacy.mp hDecision]
  | apply =>
    have := hApply.mp hDecision
    simp
    omega
  | stale =>
    have hNotLegacy : isLegacy key.nodeInstanceId rev = false := by
      by_contra hNot
      rw [Bool.not_eq_false] at hNot
      simp [hLegacy.mpr hNot] at hDecision
    refine iff_of_true rfl ⟨hNotLegacy, ?_⟩
    by_contra hLt
    simp [hApply.mpr ⟨hNotLegacy, by omega⟩] at hDecision

theorem latest_markApplied (other : PublicationRevisionKey) :
    (table.markApplied key rev).latest other =
      if isLegacy key.nodeInstanceId rev = false ∧ other = key then
        max (table.latest other) rev
      else
        table.latest other := by
  unfold markApplied
  by_cases hLegacy : isLegacy key.nodeInstanceId rev
  · simp [hLegacy]
  · by_cases hKey : other = key
    · subst hKey
      cases hLookup : table.latestApplied.lookup other with
      | none => simp [hLegacy, latest, hLookup]
      | some l => simp [hLegacy, latest, hLookup]
    · simp [hLegacy, latest, hKey]

/-- Applying never takes back what was applied. -/
theorem latest_le_markApplied (other : PublicationRevisionKey) :
    table.latest other ≤ (table.markApplied key rev).latest other := by
  rw [latest_markApplied]
  split
  · exact le_max_left _ _
  · exact le_rfl

end ReceiverPublicationRevisionTable

/-! ## Sessions of the ingress server -/

/-- A handle on an open node session.  Two handles with equal ids may still
belong to different connections; `connection` tells them apart. -/
structure RemoteNodeSessionHandle where
  nodeId : String
  sessionInstanceId : String
  connection : Nat := 0
  deriving DecidableEq, Repr

/-- A bridge to an authority socket: the target it serves, and its connection. -/
structure ActiveAuthoritySocketBridge where
  targetComponent : String
  transport : Nat
  deriving DecidableEq, Repr

structure ActiveNodeIngressSession where
  session : RemoteNodeSessionHandle
  bridges : HashMap String ActiveAuthoritySocketBridge := ∅
  publishedFingerprints : HashMap String String := ∅
  sourcePublicationTracker : SourcePublicationTracker := {}
  catalog : ObservedCatalog := {}
  publishedSessions : SessionMap := ∅
  nextMessageId : Nat := 0
  openedAt : Nat := 0

/-- What the surroundings answer while one event is handled. -/
structure Env where
  /-- the clock, in nanoseconds -/
  now : Nat := 0
  /-- the result of the call that applies a publication -/
  applyResult : Except String Unit := .ok ()
  /-- whether the session's channel takes an envelope -/
  sendOk : GrpcNodeSessionEnvelope → Bool := fun _ => true
  /-- whether a bridge takes a payload, by endpoint -/
  deliverOk : String → Bool := fun _ => true
  /-- the authority sockets of a node that can be connected, by node id -/
  connects : String → List (String × ActiveAuthoritySocketBridge) := fun _ => []
  /-- the result of listing the local sessions -/
  catalog : Option (List ManagedSessionRecord) := none

def Env.nowMillis (env : Env) : Nat := env.now / 1000000

/-- What the ingress did outside of its state. -/
inductive IngressEffect where
  /-- an apply call, with the workspace sockets it was given and its outcome -/
  | applied (nodeId : String) (envelope : ProtocolEnvelope)
      (sockets : Option (Finset String)) (ok : Bool)
  /-- an acknowledgement that the session's channel took -/
  | acked (payload : GrpcTargetPublicationAck)
  /-- a node is reported reachable, or no longer so -/
  | nodeOnline (nodeId : String)
  | nodeOffline (nodeId : String)
  deriving DecidableEq

/-! ## Acknowledgements and fingerprints -/

def publicationAckEnvelope (env : Env) (session : RemoteNodeSessionHandle)
    (payload : GrpcTargetPublicationAck) : GrpcNodeSessionEnvelope where
  messageId := "publication-ack-" ++ toString env.nowMillis
  sessionInstanceId := session.sessionInstanceId
  route := some { authorityNodeId := some payload.nodeId, targetId := some payload.targetId }
  body := some (.targetPublicationAck payload)

/-- Only numbered publications on a known session are acknowledged. -/
def sendPublicationAck (env : Env) (session : Option ActiveNodeIngressSession)
    (payload : GrpcTargetPublicationAck) : List IngressEffect :=
  if isLegacy payload.nodeInstanceId payload.revision then
    []
  else
    match session with
    | none => []
    | some active =>
        if env.sendOk (publicationAckEnvelope env active.session payload) then
          [.acked payload]
        else
          []

variable {p : PublicationRevisionKey × Nat} {session : Option ActiveNodeIngressSession}
  {payload : GrpcTargetPublicationAck} {env : Env}

theorem mem_sendPublicationAck {e : IngressEffect} :
    e ∈ sendPublicationAck env session payload ↔
      e = .acked payload ∧ isLegacy payload.nodeInstanceId payload.revision = false ∧
        ∃ active ∈ session, env.sendOk (publicationAckEnvelope env active.session payload) := by
  unfold sendPublicationAck
  by_cases hLegacy : isLegacy payload.nodeInstanceId payload.revision
  · simp [hLegacy]
  · cases session with
    | none => simp
    | some active =>
      by_cases hSend : env.sendOk (publicationAckEnvelope env active.session payload)
      · simp [hLegacy, hSend]
      · simp [hSend]

section

variable (printable : Char → Bool)

/-- The fields that identify a published state, the revision last. -/
def fingerprintFields (payload : GrpcTargetPublished) : List String :=
  [payload.targetId,
   payload.transportSessionId,
   payload.availability,
   debugOptionString printable payload.selector,
   payload.transport,
   debugOptionString printable payload.commandName,
   debugOptionString printable payload.currentPath,
   debugOptionNat payload.attachedCount,
   debugOptionString printable payload.sessionRole,
   debugOptionNat payload.windowCount,
   debugOptionString printable payload.taskState,
   payload.nodeInstanceId]

def targetPublishedFingerprint (payload : GrpcTargetPublished) : String :=
  (String.singleton '\x1f').intercalate
    (fingerprintFields printable payload ++ [toString payload.revision])

end

/-! ## The handlers -/

/-- The state after a handler, what it did, and its result. -/
structure Handled where
  session : Option ActiveNodeIngressSession
  table : ReceiverPublicationRevisionTable
  effects : List IngressEffect
  result : Except String Unit

/-- The error text of a failed mapping. -/
def remoteNodeIngressError (error : String) : String :=
  "failed to run remote node ingress server: " ++ error

/-- The key under which an envelope's publication is numbered: the target of
the route counts before the one of the payload. -/
def publicationRevisionKey (nodeId nodeInstanceId : String) (envelope : GrpcNodeSessionEnvelope)
    (payloadTargetId : String) : PublicationRevisionKey :=
  ⟨nodeId, nodeInstanceId, (routeTargetId envelope).getD payloadTargetId⟩

def publicationAck (key : PublicationRevisionKey) (revision : Nat)
    (status : GrpcTargetPublicationAckStatus) (message : Option String) :
    GrpcTargetPublicationAck where
  nodeId := key.nodeId
  nodeInstanceId := key.nodeInstanceId
  targetId := key.targetId
  revision := revision
  status := status
  message := message

/-- Both handlers end alike: apply the mapped publication, record its revision
on success, and acknowledge the outcome. -/
def applyAndAck (env : Env) (key : PublicationRevisionKey) (revision : Nat)
    (mapped : ProtocolEnvelope) (sockets : Option (Finset String))
    (session : Option ActiveNodeIngressSession) (table : ReceiverPublicationRevisionTable) :
    Handled :=
  match env.applyResult with
  | .ok () =>
      { session := session
        table := table.markApplied key revision
        effects := .applied key.nodeId mapped sockets true ::
          sendPublicationAck env session (publicationAck key revision .applied none)
        result := .ok () }
  | .error error =>
      { session := session
        table := table
        effects := .applied key.nodeId mapped sockets false ::
          sendPublicationAck env session (publicationAck key revision .failed (some error))
        result := .error error }

/-- Store a publication's fingerprint under its transport session. -/
def rememberFingerprint (printable : Char → Bool) (payload : GrpcTargetPublished)
    (active : ActiveNodeIngressSession) : ActiveNodeIngressSession :=
  { active with
    publishedFingerprints := active.publishedFingerprints.insert payload.transportSessionId
      (targetPublishedFingerprint printable payload) }

/-- The session has seen a publication with this fingerprint last. -/
def SeenLast (printable : Char → Bool) (payload : GrpcTargetPublished)
    (session : Option ActiveNodeIngressSession) : Prop :=
  ∃ active ∈ session, active.publishedFingerprints.lookup payload.transportSessionId
    = some (targetPublishedFingerprint printable payload)

instance (printable : Char → Bool) (payload : GrpcTargetPublished)
    (session : Option ActiveNodeIngressSession) : Decidable (SeenLast printable payload session) :=
  match session with
  | none => isFalse (by simp [SeenLast])
  | some active =>
      decidable_of_iff (active.publishedFingerprints.lookup payload.transportSessionId
        = some (targetPublishedFingerprint printable payload)) (by simp [SeenLast])

def handleTargetPublished (printable : Char → Bool) (env : Env) (nodeId : String)
    (envelope : GrpcNodeSessionEnvelope) (payload : GrpcTargetPublished)
    (session : Option ActiveNodeIngressSession) (table : ReceiverPublicationRevisionTable) :
    Handled :=
  let key := publicationRevisionKey nodeId payload.nodeInstanceId envelope payload.targetId
  if table.decision key payload.revision = .stale then
    { session := session, table := table
      effects := sendPublicationAck env session
        (publicationAck key payload.revision .staleRevision none)
      result := .ok () }
  else if SeenLast printable payload session then
    -- the state counts as applied: it is not applied again
    { session := session, table := table
      effects := sendPublicationAck env session
        (publicationAck key payload.revision .applied none)
      result := .ok () }
  else
    -- the fingerprint is stored before the publication is mapped and applied
    let session := session.map (rememberFingerprint printable payload)
    match mapTargetPublishedEnvelope nodeId envelope env.nowMillis payload with
    | .error error =>
        { session := session, table := table, effects := []
          result := .error (remoteNodeIngressError error) }
    | .ok mapped => applyAndAck env key payload.revision mapped none session table

/-- A 64-bit FNV-1a hash, printed with sixteen hexadecimal digits. -/
def stableSocketHash (values : List String) : String :=
  let bytes := values.flatMap fun value => value.toUTF8.toList
  let hash := bytes.foldl
    (fun hash byte => ((hash ^^^ byte.toNat) * 0x100000001b3) % 2 ^ 64) 0xcbf29ce484222325
  let digits := Nat.toDigits 16 hash
  String.ofList (List.replicate (16 - digits.length) '0' ++ digits)

def authorityTargetComponent (authorityId sessionId : String) : String :=
  stableSocketHash [authorityId, ":", sessionId]

/-- Deliver a payload to the bridges of a target.  Bridges that do not take it
are removed. -/
def bridgeOutputToAuthorityTransports (env : Env) (nodeId sessionId : String)
    (session : ActiveNodeIngressSession) : ActiveNodeIngressSession :=
  { session with
    bridges := session.bridges.retain fun endpoint bridge =>
      bridge.targetComponent != authorityTargetComponent nodeId sessionId
        || env.deliverOk endpoint }

def payloadSessionId (payloadSessionId targetId : String) : Option String :=
  if payloadSessionId.isEmpty then
    deriveSessionIdFromTargetId targetId
  else
    some payloadSessionId

def handleTargetExited (env : Env) (nodeId : String) (envelope : GrpcNodeSessionEnvelope)
    (payload : GrpcTargetExited) (session : Option ActiveNodeIngressSession)
    (sockets : Finset String) (table : ReceiverPublicationRevisionTable) : Handled :=
  let key := publicationRevisionKey nodeId payload.nodeInstanceId envelope payload.targetId
  if table.decision key payload.revision = .stale then
    { session := session, table := table
      effects := sendPublicationAck env session
        (publicationAck key payload.revision .staleRevision none)
      result := .ok () }
  else
    let mapped := mapTargetExitedEnvelope nodeId envelope env.nowMillis payload
    let handled := applyAndAck env key payload.revision mapped (some sockets) session table
    match handled.result with
    | .error _ => handled
    | .ok () =>
        let sessionId := ((routeSessionId envelope).or
          (payloadSessionId payload.transportSessionId payload.targetId)).getD
            payload.transportSessionId
        { handled with
          session := handled.session.map (bridgeOutputToAuthorityTransports env nodeId sessionId) }

/-! ## What the handlers apply and acknowledge -/

/-- The publication an applied envelope carries: its key and revision. -/
def ProtocolEnvelope.publication (m : ProtocolEnvelope) : Option (PublicationRevisionKey × Nat) :=
  match m.payload with
  | .targetPublished p => some (⟨m.senderId, p.nodeInstanceId, m.targetId.getD ""⟩, p.revision)
  | .targetExited p => some (⟨m.senderId, p.nodeInstanceId, m.targetId.getD ""⟩, p.revision)
  | .targetPublicationAck _ => none

/-- The publication an acknowledgement is for. -/
def GrpcTargetPublicationAck.publication (a : GrpcTargetPublicationAck) :
    PublicationRevisionKey × Nat :=
  (⟨a.nodeId, a.nodeInstanceId, a.targetId⟩, a.revision)

theorem publication_mapTargetPublished {nodeId : String} {envelope : GrpcNodeSessionEnvelope}
    {nowMillis : Nat} {payload : GrpcTargetPublished} {m : ProtocolEnvelope}
    (h : mapTargetPublishedEnvelope nodeId envelope nowMillis payload = .ok m) :
    m.publication = some
      (publicationRevisionKey nodeId payload.nodeInstanceId envelope payload.targetId,
        payload.revision) := by
  unfold mapTargetPublishedEnvelope at h
  split at h
  · simp at h
  · simp only [Except.ok.injEq] at h
    subst h
    cases hRoute : routeTargetId envelope <;>
      simp [ProtocolEnvelope.publication, mapEnvelope, publicationRevisionKey, hRoute]

theorem publication_mapTargetExited (nodeId : String) (envelope : GrpcNodeSessionEnvelope)
    (nowMillis : Nat) (payload : GrpcTargetExited) :
    (mapTargetExitedEnvelope nodeId envelope nowMillis payload).publication = some
      (publicationRevisionKey nodeId payload.nodeInstanceId envelope payload.targetId,
        payload.revision) := by
  cases hRoute : routeTargetId envelope <;>
    simp [ProtocolEnvelope.publication, mapTargetExitedEnvelope, mapEnvelope,
      publicationRevisionKey, hRoute]

/-- The publication a successful apply call was for. -/
def IngressEffect.appliedPublication : IngressEffect → Option (PublicationRevisionKey × Nat)
  | .applied _ m _ true => m.publication
  | _ => none

/-- The publication a positive acknowledgement is for. -/
def IngressEffect.ackedPublication : IngressEffect → Option (PublicationRevisionKey × Nat)
  | .acked a => if a.status = .applied then some a.publication else none
  | _ => none

/-- A publication is applied in a list of effects. -/
def AppliedIn (effects : List IngressEffect) (p : PublicationRevisionKey × Nat) : Prop :=
  ∃ e ∈ effects, e.appliedPublication = some p

instance (effects : List IngressEffect) (p : PublicationRevisionKey × Nat) :
    Decidable (AppliedIn effects p) :=
  inferInstanceAs (Decidable (∃ e ∈ effects, e.appliedPublication = some p))

/-- Every publication acknowledged as applied in a list of effects is applied
there. -/
def AcksBacked (effects : List IngressEffect) : Prop :=
  ∀ e ∈ effects, ∀ p ∈ e.ackedPublication, AppliedIn effects p

instance (effects : List IngressEffect) : Decidable (AcksBacked effects) :=
  inferInstanceAs (Decidable (∀ e ∈ effects, ∀ p ∈ e.ackedPublication, AppliedIn effects p))

/-- The table knows of every numbered publication applied in a list of effects. -/
def TableCovers (table : ReceiverPublicationRevisionTable) (effects : List IngressEffect) : Prop :=
  ∀ p, AppliedIn effects p → isLegacy p.1.nodeInstanceId p.2 = false → p.2 ≤ table.latest p.1

theorem AppliedIn.mono {es fs : List IngressEffect} (h : AppliedIn es p) (hSub : es ⊆ fs) :
    AppliedIn fs p := by
  obtain ⟨e, hMem, hPub⟩ := h
  exact ⟨e, hSub hMem, hPub⟩

theorem appliedIn_append {es fs : List IngressEffect} :
    AppliedIn (es ++ fs) p ↔ AppliedIn es p ∨ AppliedIn fs p := by
  simp only [AppliedIn, List.mem_append, or_and_right, exists_or]

@[simp] theorem not_appliedIn_nil : ¬ AppliedIn [] p := by
  simp [AppliedIn]

/-- An apply call for an envelope that is no publication applies none. -/
theorem not_appliedIn_singleton {nodeId : String} {m : ProtocolEnvelope}
    {sockets : Option (Finset String)} {ok : Bool} (h : m.publication = none) :
    ¬ AppliedIn [.applied nodeId m sockets ok] p := by
  cases ok <;> simp [AppliedIn, IngressEffect.appliedPublication, h]

@[simp] theorem acksBacked_nil : AcksBacked [] := by
  simp [AcksBacked]

/-- Acknowledging applies nothing. -/
theorem not_appliedIn_sendPublicationAck :
    ¬ AppliedIn (sendPublicationAck env session payload) p := by
  rintro ⟨e, hMem, hPub⟩
  obtain ⟨rfl, -⟩ := mem_sendPublicationAck.mp hMem
  simp [IngressEffect.appliedPublication] at hPub

theorem acksBacked_sendPublicationAck (h : payload.status ≠ .applied) :
    AcksBacked (sendPublicationAck env session payload) := by
  intro e hMem p hp
  obtain ⟨rfl, -⟩ := mem_sendPublicationAck.mp hMem
  simp [IngressEffect.ackedPublication, h] at hp

section

variable {env : Env} {key : PublicationRevisionKey} {rev : Nat} {mapped : ProtocolEnvelope}
  {sockets : Option (Finset String)} {session : Option ActiveNodeIngressSession}
  {table : ReceiverPublicationRevisionTable}

theorem applyAndAck_acksBacked (hPub : mapped.publication = some (key, rev)) :
    AcksBacked (applyAndAck env key rev mapped sockets session table).effects := by
  intro e hMem p hp
  unfold applyAndAck at hMem ⊢
  cases hResult : env.applyResult with
  | ok u =>
    simp only [hResult, List.mem_cons] at hMem ⊢
    rcases hMem with rfl | hMem
    · simp [IngressEffect.ackedPublication] at hp
    · obtain ⟨rfl, -⟩ := mem_sendPublicationAck.mp hMem
      obtain rfl : (key, rev) = p := by
        simpa [IngressEffect.ackedPublication, publicationAck,
          GrpcTargetPublicationAck.publication] using hp
      exact ⟨_, List.mem_cons_self, hPub⟩
  | error error =>
    -- a failed apply is acknowledged as failed
    simp only [hResult, List.mem_cons] at hMem
    rcases hMem with rfl | hMem
    · simp [IngressEffect.ackedPublication] at hp
    · obtain ⟨rfl, -⟩ := mem_sendPublicationAck.mp hMem
      simp [IngressEffect.ackedPublication, publicationAck] at hp

theorem applyAndAck_tableCovers (hPub : mapped.publication = some (key, rev)) :
    TableCovers (applyAndAck env key rev mapped sockets session table).table
      (applyAndAck env key rev mapped sockets session table).effects := by
  rintro p ⟨e, hMem, he⟩ hNumbered
  unfold applyAndAck at hMem ⊢
  cases hResult : env.applyResult with
  | error error =>
    simp only [hResult, List.mem_cons] at hMem
    rcases hMem with rfl | hMem
    · simp [IngressEffect.appliedPublication] at he
    · exact absurd ⟨e, hMem, he⟩ not_appliedIn_sendPublicationAck
  | ok u =>
    simp only [hResult, List.mem_cons] at hMem ⊢
    rcases hMem with rfl | hMem
    · rw [IngressEffect.appliedPublication, hPub, Option.some.injEq] at he
      subst he
      rw [ReceiverPublicationRevisionTable.latest_markApplied, if_pos ⟨hNumbered, rfl⟩]
      exact le_max_right _ _
    · exact absurd ⟨e, hMem, he⟩ not_appliedIn_sendPublicationAck

theorem latest_le_applyAndAck (other : PublicationRevisionKey) :
    table.latest other ≤
      (applyAndAck env key rev mapped sockets session table).table.latest other := by
  unfold applyAndAck
  split
  · exact ReceiverPublicationRevisionTable.latest_le_markApplied other
  · exact le_rfl

end

end WaitAgent.Remote
