import WaitAgent.Remote.Protocol
import WaitAgent.Verified.HashMap

/-!
# The source's publication tracker

A node tells its peers about its sessions with numbered publications.  The
tracker keeps, for each target, the revision it published last and the
publication that has not been acknowledged yet, and decides when it is sent
again.  Clock values are nanoseconds.
-/

namespace WaitAgent.Remote

open Verified Domain

structure SourcePublicationState where
  session : ManagedSessionRecord
  exited : Bool
  deriving DecidableEq, Repr

structure PendingSourcePublication where
  targetId : String
  revision : Nat
  envelope : GrpcNodeSessionEnvelope
  retryAttempt : Nat := 0
  nextRetryAt : Option Nat := none
  deriving DecidableEq, Repr

structure SourcePublicationRecord where
  lastState : Option SourcePublicationState := none
  /-- a `u64`, to which each publication of the target adds one; that it wraps after `2 ^ 64`
  of them is not modelled -/
  latestRevision : Nat := 0
  pending : Option PendingSourcePublication := none
  ackedRevision : Nat := 0
  deriving DecidableEq, Repr

structure SourcePublicationTracker where
  records : HashMap String SourcePublicationRecord := ∅
  connected : Bool := false

inductive SourcePublicationAckOutcome where
  | cleared
  | retained
  | ignored
  deriving DecidableEq, Repr

inductive SourcePublicationMode where
  | delta
  | fullBaseline
  deriving DecidableEq, Repr

/-! ## Envelopes of the source -/

/-- The name under which peers know a session of this node. -/
def publishedTargetId (nodeId sessionId : String) : String :=
  "remote-peer:" ++ nodeId ++ ":" ++ sessionId

def nextMessageIdIncrement (nextMessageId : Nat) : Nat :=
  min (nextMessageId + 1) (2 ^ 64 - 1)

/-- The fields that the two envelopes of the source share. -/
def sessionSyncEnvelope (nodeId sessionInstanceId : String) (messageSequence now : Nat)
    (sessionId : String) (body : Body) : GrpcNodeSessionEnvelope where
  messageId := nodeId ++ "-session-sync-" ++ toString messageSequence
  sentAt := some (timestampNow now)
  sessionInstanceId := sessionInstanceId
  route := some
    { authorityNodeId := some nodeId
      targetId := some (publishedTargetId nodeId sessionId)
      sessionId := some sessionId }
  body := some body

/-- `remote_session_published_envelope`, with the revision the tracker then
writes into it. -/
def remoteSessionPublishedEnvelope (nodeId sessionInstanceId : String)
    (messageSequence now : Nat) (session : ManagedSessionRecord) (revision : Nat) :
    GrpcNodeSessionEnvelope :=
  sessionSyncEnvelope nodeId sessionInstanceId messageSequence now session.address.sessionId
    (.targetPublished
      { targetId := publishedTargetId nodeId session.address.sessionId
        authorityNodeId := nodeId
        transport := "tmux"
        transportSessionId := session.address.sessionId
        selector := session.selector
        availability := session.availability.asStr
        commandName := session.commandName
        displayCommandName := session.displayCommandName
        currentPath := session.currentPath
        attachedCount := some session.attachedClients
        sessionRole := session.sessionRole.map (·.asStr)
        workspaceKey := session.workspaceKey
        windowCount := some session.windowCount
        taskState := some session.taskState.asStr
        nodeInstanceId := sessionInstanceId
        revision := revision })

/-- `remote_session_exited_envelope`, with the tracker's revision. -/
def remoteSessionExitedEnvelope (nodeId sessionInstanceId : String)
    (messageSequence now : Nat) (transportSessionId : String) (revision : Nat) :
    GrpcNodeSessionEnvelope :=
  sessionSyncEnvelope nodeId sessionInstanceId messageSequence now transportSessionId
    (.targetExited
      { targetId := publishedTargetId nodeId transportSessionId
        transportSessionId := transportSessionId
        nodeInstanceId := sessionInstanceId
        revision := revision })

def exitedSourcePublicationState (nodeId transportSessionId : String) :
    ManagedSessionRecord where
  address := ⟨.remotePeer, nodeId, transportSessionId⟩
  availability := .exited

/-! ## Retry delays -/

def sourcePublicationRetryInitialDelay : Nat := 250000000

def sourcePublicationRetryMaxDelay : Nat := 10000000000

/-- The delay doubles with every attempt; the factor is a 32-bit shift that
saturates. -/
def sourcePublicationRetryDelay (attempt : Nat) : Nat :=
  let shift := attempt - 1
  let factor := if shift < 32 then 2 ^ shift else 2 ^ 32 - 1
  min (sourcePublicationRetryInitialDelay * factor) sourcePublicationRetryMaxDelay

namespace SourcePublicationTracker

/-- The record of a target; a target without one has the default record. -/
def record (t : SourcePublicationTracker) (targetId : String) : SourcePublicationRecord :=
  (t.records.lookup targetId).getD {}

def setRecord (t : SourcePublicationTracker) (targetId : String)
    (r : SourcePublicationRecord) : SourcePublicationTracker :=
  { t with records := t.records.insert targetId r }

/-! ## Operations -/

def onConnected (t : SourcePublicationTracker) : SourcePublicationTracker where
  connected := true
  records := t.records.mapValues fun _ r =>
    { r with pending := r.pending.map fun p => { p with nextRetryAt := none } }

def onDisconnected (t : SourcePublicationTracker) : SourcePublicationTracker :=
  { t with connected := false }

/-- Number the next publication of a target and make it the pending one. -/
def publish (t : SourcePublicationTracker) (targetId : String)
    (state : SourcePublicationState) (envelope : Nat → GrpcNodeSessionEnvelope) :
    SourcePublicationTracker × PendingSourcePublication :=
  let r := t.record targetId
  let revision := r.latestRevision + 1
  let pending : PendingSourcePublication :=
    { targetId := targetId, revision := revision, envelope := envelope revision }
  (t.setRecord targetId
    { r with lastState := some state, latestRevision := revision, pending := some pending },
   pending)

/-- In `delta` mode a state that was published already is not published again;
its (possibly new) record stays.  The second component is the advanced message
counter. -/
def onStateChangedWithMode (t : SourcePublicationTracker) (nodeId sessionInstanceId : String)
    (nextMessageId now : Nat) (session : ManagedSessionRecord)
    (mode : SourcePublicationMode) :
    SourcePublicationTracker × Nat × Option PendingSourcePublication :=
  let targetId := publishedTargetId nodeId session.address.sessionId
  let state : SourcePublicationState := { session := session, exited := false }
  let r := t.record targetId
  if mode = .delta ∧ r.lastState = some state then
    (t.setRecord targetId r, nextMessageId, none)
  else
    let sequence := nextMessageIdIncrement nextMessageId
    let (t, pending) := t.publish targetId state fun revision =>
      remoteSessionPublishedEnvelope nodeId sessionInstanceId sequence now session revision
    (t, sequence, some pending)

def onTargetExited (t : SourcePublicationTracker) (nodeId sessionInstanceId : String)
    (nextMessageId now : Nat) (transportSessionId : String) :
    SourcePublicationTracker × Nat × PendingSourcePublication :=
  let targetId := publishedTargetId nodeId transportSessionId
  let state : SourcePublicationState :=
    { session := exitedSourcePublicationState nodeId transportSessionId, exited := true }
  let sequence := nextMessageIdIncrement nextMessageId
  let (t, pending) := t.publish targetId state fun revision =>
    remoteSessionExitedEnvelope nodeId sessionInstanceId sequence now transportSessionId revision
  (t, sequence, pending)

/-- An acknowledgement counts only for the pending revision. -/
def onAck (t : SourcePublicationTracker) (ack : TargetPublicationAckPayload) :
    SourcePublicationTracker × SourcePublicationAckOutcome :=
  match t.records.lookup ack.targetId with
  | none => (t, .ignored)
  | some r =>
      match r.pending with
      | none => (t, .ignored)
      | some pending =>
          if pending.revision ≠ ack.revision then
            (t, .ignored)
          else
            match ack.status with
            | .applied | .staleRevision =>
                (t.setRecord ack.targetId
                  { r with ackedRevision := ack.revision, pending := none }, .cleared)
            | .failed => (t, .retained)

def onPublicationSent (t : SourcePublicationTracker) (targetId : String) (revision now : Nat) :
    SourcePublicationTracker :=
  match t.records.lookup targetId with
  | none => t
  | some r =>
      match r.pending with
      | none => t
      | some pending =>
          if pending.revision ≠ revision then
            t
          else
            let attempt := min (pending.retryAttempt + 1) (2 ^ 32 - 1)
            t.setRecord targetId
              { r with
                pending := some
                  { pending with
                    retryAttempt := attempt
                    nextRetryAt := some (now + sourcePublicationRetryDelay attempt) } }

def isCurrentPending (t : SourcePublicationTracker) (targetId : String) (revision : Nat) : Bool :=
  match (t.records.lookup targetId).bind (·.pending) with
  | none => false
  | some pending => pending.revision == revision

def isDue (now : Nat) (pending : PendingSourcePublication) : Bool :=
  pending.nextRetryAt.any fun retryAt => retryAt ≤ now

def dueRetryPublications (t : SourcePublicationTracker) (now : Nat) :
    List PendingSourcePublication :=
  if !t.connected then
    []
  else
    t.records.values.filterMap fun r => r.pending.filter (isDue now)

/-! ## What an operation does to the record of a target

Every invariant of the tracker is about `record`; these equations are all that
is used of the operations. -/

variable (t : SourcePublicationTracker)

theorem record_setRecord (k k' : String) (r : SourcePublicationRecord) :
    (t.setRecord k r).record k' = if k' = k then r else t.record k' := by
  unfold record setRecord
  by_cases h : k' = k
  · subst h
    simp
  · simp [h]

/-- Writing a record back as it was changes nothing. -/
theorem record_setRecord_self (k k' : String) :
    (t.setRecord k (t.record k)).record k' = t.record k' := by
  rw [record_setRecord]
  split
  · next h => rw [h]
  · rfl

@[simp] theorem connected_setRecord (k : String) (r : SourcePublicationRecord) :
    (t.setRecord k r).connected = t.connected := rfl

theorem record_onConnected (k : String) :
    t.onConnected.record k =
      { t.record k with
        pending := (t.record k).pending.map fun p => { p with nextRetryAt := none } } := by
  unfold record onConnected
  cases h : t.records.lookup k with
  | none => simp [h]
  | some r => simp [h]

theorem record_publish (k k' : String) (state : SourcePublicationState)
    (envelope : Nat → GrpcNodeSessionEnvelope) :
    (t.publish k state envelope).1.record k' =
      if k' = k then
        { t.record k with
          lastState := some state
          latestRevision := (t.record k).latestRevision + 1
          pending := some (t.publish k state envelope).2 }
      else
        t.record k' := by
  unfold publish
  rw [record_setRecord]

/-- The acknowledgement is for the pending publication, and positive. -/
def Clears (r : SourcePublicationRecord) (ack : TargetPublicationAckPayload) : Prop :=
  (∃ p, r.pending = some p ∧ p.revision = ack.revision) ∧ ack.status ≠ .failed

theorem onAck_of_clears {ack : TargetPublicationAckPayload}
    (h : Clears (t.record ack.targetId) ack) :
    (t.onAck ack).1 = t.setRecord ack.targetId
      { t.record ack.targetId with ackedRevision := ack.revision, pending := none } := by
  obtain ⟨⟨p, hPending, hRev⟩, hStatus⟩ := h
  cases hLookup : t.records.lookup ack.targetId with
  | none => simp [record, hLookup] at hPending
  | some r =>
    rw [record, hLookup, Option.getD_some] at hPending
    unfold onAck
    cases hCase : ack.status with
    | failed => exact absurd hCase hStatus
    | applied => simp [hLookup, hPending, hRev, record]
    | staleRevision => simp [hLookup, hPending, hRev, record]

theorem onAck_of_not_clears {ack : TargetPublicationAckPayload}
    (h : ¬ Clears (t.record ack.targetId) ack) : (t.onAck ack).1 = t := by
  unfold onAck
  cases hLookup : t.records.lookup ack.targetId with
  | none => rfl
  | some r =>
    rw [record, hLookup, Option.getD_some] at h
    cases hPending : r.pending with
    | none => simp [hPending]
    | some p =>
      by_cases hRev : p.revision = ack.revision
      · cases hStatus : ack.status with
        | failed => simp [hPending, hRev]
        | applied => exact absurd ⟨⟨p, hPending, hRev⟩, by simp [hStatus]⟩ h
        | staleRevision => exact absurd ⟨⟨p, hPending, hRev⟩, by simp [hStatus]⟩ h
      · simp [hPending, hRev]

@[simp] theorem connected_onAck (ack : TargetPublicationAckPayload) :
    (t.onAck ack).1.connected = t.connected := by
  by_cases h : Clears (t.record ack.targetId) ack
  · rw [onAck_of_clears t h, connected_setRecord]
  · rw [onAck_of_not_clears t h]

/-- The pending publication after it was sent at `now`. -/
def sentPending (now : Nat) (p : PendingSourcePublication) : PendingSourcePublication :=
  let attempt := min (p.retryAttempt + 1) (2 ^ 32 - 1)
  { p with
    retryAttempt := attempt
    nextRetryAt := some (now + sourcePublicationRetryDelay attempt) }

theorem record_onPublicationSent (k k' : String) (revision now : Nat) :
    (t.onPublicationSent k revision now).record k' =
      if k' = k ∧ t.isCurrentPending k revision then
        { t.record k' with pending := (t.record k').pending.map (sentPending now) }
      else
        t.record k' := by
  unfold onPublicationSent isCurrentPending
  cases hLookup : t.records.lookup k with
  | none => simp
  | some r =>
    cases hPending : r.pending with
    | none => simp [hPending]
    | some p =>
      by_cases hRev : p.revision = revision
      · by_cases hk : k' = k
        · subst hk
          simp [hPending, hRev, record, setRecord, hLookup, sentPending]
        · simp [hPending, hRev, record_setRecord, hk]
      · simp [hPending, hRev]

@[simp] theorem connected_onPublicationSent (k : String) (revision now : Nat) :
    (t.onPublicationSent k revision now).connected = t.connected := by
  unfold onPublicationSent
  split
  · rfl
  · split
    · rfl
    · split <;> rfl

variable {t}

theorem isCurrentPending_iff {k : String} {revision : Nat} :
    t.isCurrentPending k revision ↔
      ∃ p, (t.record k).pending = some p ∧ p.revision = revision := by
  unfold isCurrentPending record
  cases hLookup : t.records.lookup k with
  | none => simp
  | some r =>
    cases hPending : r.pending with
    | none => simp [hPending]
    | some p => simp [hPending]

/-- The publications a retry sends are pending ones whose time has come. -/
theorem mem_dueRetryPublications {now : Nat} {p : PendingSourcePublication} :
    p ∈ t.dueRetryPublications now ↔
      t.connected ∧ ∃ k, (t.record k).pending = some p ∧ isDue now p := by
  unfold dueRetryPublications
  cases hConnected : t.connected with
  | false => simp
  | true =>
    simp only [Bool.not_true, Bool.false_eq_true, ↓reduceIte, List.mem_filterMap,
      AList.mem_values_iff, Option.filter_eq_some_iff, true_and]
    constructor
    · rintro ⟨r, ⟨k, hLookup⟩, hPending, hDue⟩
      exact ⟨k, by simpa [record, hLookup] using hPending, hDue⟩
    · rintro ⟨k, hPending, hDue⟩
      cases hLookup : t.records.lookup k with
      | none => simp [record, hLookup] at hPending
      | some r =>
        rw [record, hLookup, Option.getD_some] at hPending
        exact ⟨r, ⟨k, hLookup⟩, hPending, hDue⟩

end SourcePublicationTracker

/-! ## Sending

A send is the only thing that can fail. -/

/-- The source while it publishes: its tracker and its message counter, with
the publications it has numbered and the envelopes it has sent so far. -/
structure Publisher where
  tracker : SourcePublicationTracker := {}
  nextMessageId : Nat := 0
  numbered : List PendingSourcePublication := []
  sent : List GrpcNodeSessionEnvelope := []

namespace Publisher

/-- `send_source_publication`: a publication that is no longer the pending one
is skipped.  The flag is false when the send failed. -/
def sendSourcePublication (sendOk : GrpcNodeSessionEnvelope → Bool) (now : Nat)
    (c : Publisher) (publication : PendingSourcePublication) : Publisher × Bool :=
  if !c.tracker.isCurrentPending publication.targetId publication.revision then
    (c, true)
  else if sendOk publication.envelope then
    ({ c with
       tracker := c.tracker.onPublicationSent publication.targetId publication.revision now
       sent := c.sent ++ [publication.envelope] }, true)
  else
    (c, false)

/-- `send_pending_source_publications`: stop at the first failed send. -/
def sendPendingSourcePublications (sendOk : GrpcNodeSessionEnvelope → Bool) (now : Nat) :
    Publisher → List PendingSourcePublication → Publisher × Bool
  | c, [] => (c, true)
  | c, publication :: rest =>
      match c.sendSourcePublication sendOk now publication with
      | (c, true) => sendPendingSourcePublications sendOk now c rest
      | (c, false) => (c, false)

/-- Publish one session's state and send it, if there is anything to publish. -/
def publishState (nodeId sessionInstanceId : String) (sendOk : GrpcNodeSessionEnvelope → Bool)
    (now : Nat) (mode : SourcePublicationMode) (c : Publisher) (session : ManagedSessionRecord) :
    Publisher × Bool :=
  match c.tracker.onStateChangedWithMode nodeId sessionInstanceId c.nextMessageId now session
      mode with
  | (tracker, sequence, none) => ({ c with tracker := tracker, nextMessageId := sequence }, true)
  | (tracker, sequence, some publication) =>
      sendSourcePublication sendOk now
        { c with
          tracker := tracker
          nextMessageId := sequence
          numbered := c.numbered ++ [publication] } publication

/-- Publish the exit of one session and send it. -/
def publishExit (nodeId sessionInstanceId : String) (sendOk : GrpcNodeSessionEnvelope → Bool)
    (now : Nat) (c : Publisher) (transportSessionId : String) : Publisher × Bool :=
  match c.tracker.onTargetExited nodeId sessionInstanceId c.nextMessageId now
      transportSessionId with
  | (tracker, sequence, publication) =>
      sendSourcePublication sendOk now
        { c with
          tracker := tracker
          nextMessageId := sequence
          numbered := c.numbered ++ [publication] } publication

/-- A send leaves the tracker as it is, or puts down when it happened. -/
theorem tracker_sendSourcePublication (c : Publisher) (sendOk : GrpcNodeSessionEnvelope → Bool)
    (now : Nat) (p : PendingSourcePublication) :
    (c.sendSourcePublication sendOk now p).1.tracker = c.tracker ∨
      (c.sendSourcePublication sendOk now p).1.tracker =
        c.tracker.onPublicationSent p.targetId p.revision now := by
  unfold sendSourcePublication
  split
  · exact .inl rfl
  · split
    · exact .inr rfl
    · exact .inl rfl

theorem connected_sendSourcePublication (c : Publisher)
    (sendOk : GrpcNodeSessionEnvelope → Bool) (now : Nat) (p : PendingSourcePublication) :
    (c.sendSourcePublication sendOk now p).1.tracker.connected = c.tracker.connected := by
  rcases c.tracker_sendSourcePublication sendOk now p with h | h
  · rw [h]
  · rw [h, SourcePublicationTracker.connected_onPublicationSent]

theorem connected_publishState (c : Publisher) (nodeId inst : String)
    (sendOk : GrpcNodeSessionEnvelope → Bool) (now : Nat) (mode : SourcePublicationMode)
    (session : ManagedSessionRecord) :
    (c.publishState nodeId inst sendOk now mode session).1.tracker.connected
      = c.tracker.connected := by
  unfold publishState SourcePublicationTracker.onStateChangedWithMode
  dsimp only
  by_cases hSkip : mode = .delta ∧ (c.tracker.record (publishedTargetId nodeId
      session.address.sessionId)).lastState = some { session := session, exited := false }
  · rw [if_pos hSkip]
    rfl
  · rw [if_neg hSkip]
    exact connected_sendSourcePublication _ _ _ _

theorem connected_publishExit (c : Publisher) (nodeId inst : String)
    (sendOk : GrpcNodeSessionEnvelope → Bool) (now : Nat) (sid : String) :
    (c.publishExit nodeId inst sendOk now sid).1.tracker.connected = c.tracker.connected :=
  connected_sendSourcePublication _ _ _ _

/-- Do `f` for each element until one fails. -/
def forEach {α : Type} (f : Publisher → α → Publisher × Bool) :
    Publisher → List α → Publisher × Bool
  | c, [] => (c, true)
  | c, a :: as =>
      match f c a with
      | (c, true) => forEach f c as
      | (c, false) => (c, false)

/-- What each call keeps, the loop keeps. -/
theorem forEach_invariant {α : Type} {f : Publisher → α → Publisher × Bool}
    {I : Publisher → Prop} (as : List α) (hf : ∀ c, ∀ a ∈ as, I c → I (f c a).1) :
    ∀ c, I c → I (forEach f c as).1 := by
  induction as with
  | nil => exact fun c hc => hc
  | cons a as ih =>
    intro c hc
    have hNext := hf c a List.mem_cons_self hc
    have hRest := ih fun c b hb => hf c b (List.mem_cons_of_mem a hb)
    rw [forEach]
    split
    · next c' hEq =>
      rw [hEq] at hNext
      exact hRest c' hNext
    · next c' hEq =>
      rw [hEq] at hNext
      exact hNext

/-- In a loop that went through, each call did. -/
theorem forEach_cons_true {α : Type} {f : Publisher → α → Publisher × Bool} {c : Publisher}
    {a : α} {as : List α} (h : (forEach f c (a :: as)).2 = true) :
    (f c a).2 = true ∧ forEach f c (a :: as) = forEach f (f c a).1 as := by
  rw [forEach] at h ⊢
  split at h
  · next c' hEq => simp [hEq]
  · cases h

theorem forEach_true_invariant {α : Type} {f : Publisher → α → Publisher × Bool}
    {I : Publisher → Prop} (hf : ∀ c a, (f c a).2 = true → I c → I (f c a).1) (as : List α) :
    ∀ c, (forEach f c as).2 = true → I c → I (forEach f c as).1 := by
  induction as with
  | nil => exact fun c _ hc => hc
  | cons a as ih =>
    intro c hTrue hc
    obtain ⟨hFirst, hEq⟩ := forEach_cons_true hTrue
    rw [hEq] at hTrue ⊢
    exact ih _ hTrue (hf c a hFirst hc)

/-- What the call for `a` establishes and all calls keep holds after a loop over
a list with `a` in it. -/
theorem forEach_true_of_mem {α : Type} {f : Publisher → α → Publisher × Bool}
    {I : Publisher → Prop} (hf : ∀ c a, (f c a).2 = true → I c → I (f c a).1) {a : α}
    (ha : ∀ c, (f c a).2 = true → I (f c a).1) (as : List α) (hMem : a ∈ as) :
    ∀ c, (forEach f c as).2 = true → I (forEach f c as).1 := by
  induction as with
  | nil => cases hMem
  | cons b as ih =>
    intro c hTrue
    obtain ⟨hFirst, hEq⟩ := forEach_cons_true hTrue
    rw [hEq] at hTrue ⊢
    rcases List.mem_cons.mp hMem with rfl | hRest
    · exact forEach_true_invariant hf as _ hTrue (ha c hFirst)
    · exact ih hRest _ hTrue

/-- Retries are a loop of sends. -/
private theorem sendPendingSourcePublications_eq_forEach
    (sendOk : GrpcNodeSessionEnvelope → Bool) (now : Nat) (c : Publisher)
    (ps : List PendingSourcePublication) :
    c.sendPendingSourcePublications sendOk now ps
      = c.forEach (sendSourcePublication sendOk now) ps := by
  induction ps generalizing c with
  | nil => rfl
  | cons p ps ih =>
    rw [sendPendingSourcePublications, forEach]
    split <;> simp [*]

/-- What each send keeps, a retry keeps. -/
theorem retry_invariant {sendOk : GrpcNodeSessionEnvelope → Bool} {now : Nat}
    {I : Publisher → Prop} (ps : List PendingSourcePublication)
    (hSend : ∀ c, ∀ p ∈ ps, I c → I (c.sendSourcePublication sendOk now p).1)
    (c : Publisher) (hc : I c) : I (c.sendPendingSourcePublications sendOk now ps).1 := by
  rw [sendPendingSourcePublications_eq_forEach]
  exact forEach_invariant ps hSend c hc

theorem connected_retry (c : Publisher) (sendOk : GrpcNodeSessionEnvelope → Bool) (now : Nat)
    (ps : List PendingSourcePublication) :
    (c.sendPendingSourcePublications sendOk now ps).1.tracker.connected = c.tracker.connected :=
  retry_invariant (I := fun c' => c'.tracker.connected = c.tracker.connected) ps
    (fun c' p _ hc => (c'.connected_sendSourcePublication sendOk now p).trans hc) c rfl

end Publisher

end WaitAgent.Remote
