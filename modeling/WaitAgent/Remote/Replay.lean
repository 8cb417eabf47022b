import WaitAgent.Remote.SyncLoop

/-!
# Which publications are replayed after a reconnect

`on_connected` takes the retry time from every pending publication, and a
publication without one is never sent again.  Only what the full baseline of the
new session publishes gets a retry time back: the sessions observed now, and
those published last that are gone.  A pending exit of a session that was
already struck from the published ones is neither.
-/

namespace WaitAgent.Remote

open Verified Domain

/-- A pending publication has a time at which it is sent again. -/
def SourcePublicationRecord.armed (r : SourcePublicationRecord) : Bool :=
  r.pending.all (·.nextRetryAt.isSome)

/-! ## What publishing does to the records -/

namespace Publisher

variable {nodeId inst : String} {sendOk : GrpcNodeSessionEnvelope → Bool} {now : Nat}
  {c : Publisher}

theorem armed_onPublicationSent {t : SourcePublicationTracker} {k : String}
    (h : (t.record k).armed) (target : String) (revision now : Nat) :
    ((t.onPublicationSent target revision now).record k).armed := by
  rw [SourcePublicationTracker.record_onPublicationSent]
  split
  · cases (t.record k).pending <;>
      simp [SourcePublicationRecord.armed, SourcePublicationTracker.sentPending]
  · exact h

/-- No send disarms a publication. -/
theorem armed_sendSourcePublication {k : String} (h : (c.tracker.record k).armed)
    (p : PendingSourcePublication) :
    ((c.sendSourcePublication sendOk now p).1.tracker.record k).armed := by
  rcases c.tracker_sendSourcePublication sendOk now p with hEq | hEq <;> rw [hEq]
  · exact h
  · exact armed_onPublicationSent h _ _ _

/-- Publishing for one target, from `c` to `r`: the other targets' records stay,
and when the send went through the target's publication is armed. -/
structure Publishes (target : String) (c : Publisher) (r : Publisher × Bool) : Prop where
  other : ∀ k, k ≠ target → r.1.tracker.record k = c.tracker.record k
  armed : r.2 = true → (r.1.tracker.record target).armed

theorem Publishes.of_publish {target : String} {state : SourcePublicationState}
    {envelope : Nat → GrpcNodeSessionEnvelope} {c' : Publisher}
    (hTracker : c'.tracker = (c.tracker.publish target state envelope).1) :
    Publishes target c
      (c'.sendSourcePublication sendOk now (c.tracker.publish target state envelope).2) := by
  have hTarget : (c.tracker.publish target state envelope).2.targetId = target := rfl
  have hRecord := fun k => c.tracker.record_publish target k state envelope
  refine { other := ?_, armed := ?_ }
  · intro k hk
    have hOther : c'.tracker.record k = c.tracker.record k := by rw [hTracker, hRecord, if_neg hk]
    rcases c'.tracker_sendSourcePublication sendOk now _ with h | h
    · rw [h, hOther]
    · rw [h, SourcePublicationTracker.record_onPublicationSent, hTarget,
        if_neg (fun hAnd => hk hAnd.1), hOther]
  · intro hTrue
    have hCurrent : c'.tracker.isCurrentPending target
        (c.tracker.publish target state envelope).2.revision := by
      rw [SourcePublicationTracker.isCurrentPending_iff, hTracker, hRecord, if_pos rfl]
      exact ⟨_, rfl, rfl⟩
    unfold sendSourcePublication at hTrue ⊢
    rw [hTarget, hCurrent, Bool.not_true, if_neg Bool.false_ne_true] at hTrue ⊢
    split at hTrue
    · next hSend =>
      rw [if_pos hSend]
      show ((c'.tracker.onPublicationSent _ _ _).record target).armed
      rw [SourcePublicationTracker.record_onPublicationSent, if_pos ⟨rfl, hCurrent⟩]
      cases (c'.tracker.record target).pending <;>
        simp [SourcePublicationRecord.armed, SourcePublicationTracker.sentPending]
    · cases hTrue

/-- Only a delta leaves a state out, and then it changes no record. -/
theorem publishState_publishes (mode : SourcePublicationMode) (session : ManagedSessionRecord) :
    Publishes (publishedTargetId nodeId session.address.sessionId) c
        (c.publishState nodeId inst sendOk now mode session) ∨
      mode = .delta ∧ ∀ k, (c.publishState nodeId inst sendOk now mode session).1.tracker.record k
        = c.tracker.record k := by
  unfold publishState SourcePublicationTracker.onStateChangedWithMode
  split
  · next hEq =>
    dsimp only at hEq
    split at hEq
    · next hSkip =>
      cases hEq
      exact .inr ⟨hSkip.1, fun k => c.tracker.record_setRecord_self _ k⟩
    · cases hEq
  · next hEq =>
    dsimp only at hEq
    split at hEq
    · cases hEq
    · cases hEq
      exact .inl (Publishes.of_publish rfl)

theorem publishExit_publishes (sid : String) :
    Publishes (publishedTargetId nodeId sid) c (c.publishExit nodeId inst sendOk now sid) :=
  Publishes.of_publish rfl

theorem Publishes.keeps_armed {target k : String} {r : Publisher × Bool}
    (h : Publishes target c r) (hTrue : r.2 = true) (hk : (c.tracker.record k).armed) :
    (r.1.tracker.record k).armed := by
  by_cases hEq : k = target
  · rw [hEq]
    exact h.armed hTrue
  · rw [h.other k hEq]
    exact hk

theorem publishState_keeps_armed {k : String} {mode : SourcePublicationMode}
    {session : ManagedSessionRecord}
    (hTrue : (c.publishState nodeId inst sendOk now mode session).2 = true)
    (hk : (c.tracker.record k).armed) :
    ((c.publishState nodeId inst sendOk now mode session).1.tracker.record k).armed := by
  rcases publishState_publishes mode session with h | ⟨-, hSame⟩
  · exact h.keeps_armed hTrue hk
  · rw [hSame]
    exact hk

end Publisher

/-! ## What a publishing pass does to the records -/

section Pass

variable {nodeId inst : String} {sendOk : GrpcNodeSessionEnvelope → Bool} {now : Nat}
  {mode : SessionSyncMode} {c : Publisher} {delta : SessionSyncDelta} {k : String}

/-- The targets a pass publishes for. -/
def SessionSyncDelta.targets (nodeId : String) (delta : SessionSyncDelta) : List String :=
  (delta.publish ++ delta.exit).map fun s => publishedTargetId nodeId s.address.sessionId

/-- A pass does not touch the records of targets it does not publish for. -/
theorem record_publishDelta_of_notMem (h : k ∉ delta.targets nodeId) :
    (publishDelta nodeId inst sendOk now mode c delta).1.tracker.record k
      = c.tracker.record k := by
  have hNe : ∀ s ∈ delta.publish ++ delta.exit,
      k ≠ publishedTargetId nodeId s.address.sessionId := by
    intro s hs hEq
    exact h (List.mem_map.mpr ⟨s, hs, hEq.symm⟩)
  refine publishDelta_invariant (I := fun c' => c'.tracker.record k = c.tracker.record k) ?_ ?_ rfl
  · intro c' session hMem hc
    rcases Publisher.publishState_publishes mode.publicationMode session with h | h
    · rw [h.other k (hNe session (List.mem_append_left _ hMem)), hc]
    · rw [h.2, hc]
  · intro c' session hMem hc
    rw [(Publisher.publishExit_publishes session.address.sessionId).other k
      (hNe session (List.mem_append_right _ hMem)), hc]

theorem publishDelta_keeps_armed
    (hTrue : (publishDelta nodeId inst sendOk now mode c delta).2 = true)
    (hk : (c.tracker.record k).armed) :
    ((publishDelta nodeId inst sendOk now mode c delta).1.tracker.record k).armed := by
  obtain ⟨hStates, hEq⟩ := publishDelta_true hTrue
  rw [hEq] at hTrue ⊢
  refine Publisher.forEach_true_invariant (I := fun c => (c.tracker.record k).armed) ?_ _ _ hTrue
    (Publisher.forEach_true_invariant (I := fun c => (c.tracker.record k).armed) ?_ _ _ hStates hk)
  · intro c' session hSent hc
    exact (Publisher.publishExit_publishes _).keeps_armed hSent hc
  · intro c' session hSent hc
    exact Publisher.publishState_keeps_armed hSent hc

/-- After a full baseline that went through, every target it publishes for is
armed. -/
theorem armed_of_mem_fullBaseline
    (hTrue : (publishDelta nodeId inst sendOk now .fullBaseline c delta).2 = true)
    (hk : k ∈ delta.targets nodeId) :
    ((publishDelta nodeId inst sendOk now .fullBaseline c delta).1.tracker.record k).armed := by
  obtain ⟨session, hMem, rfl⟩ := List.mem_map.mp hk
  obtain ⟨hStates, hEq⟩ := publishDelta_true hTrue
  rw [hEq] at hTrue ⊢
  have hKeep : ∀ (c : Publisher) (previous : ManagedSessionRecord) (k : String),
      (c.publishExit nodeId inst sendOk now previous.address.sessionId).2 = true →
      (c.tracker.record k).armed →
      ((c.publishExit nodeId inst sendOk now previous.address.sessionId).1.tracker.record
        k).armed :=
    fun c previous k hSent hc => (Publisher.publishExit_publishes _).keeps_armed hSent hc
  rcases List.mem_append.mp hMem with hState | hExit
  · refine Publisher.forEach_true_invariant
      (I := fun c => (c.tracker.record (publishedTargetId nodeId session.address.sessionId)).armed)
      (fun c previous hSent hc => hKeep c previous _ hSent hc) _ _ hTrue ?_
    refine Publisher.forEach_true_of_mem
      (I := fun c => (c.tracker.record (publishedTargetId nodeId session.address.sessionId)).armed)
      (fun c session hSent hc => Publisher.publishState_keeps_armed hSent hc) ?_ _ hState _ hStates
    intro c hSent
    rcases Publisher.publishState_publishes .fullBaseline session with h | h
    · exact h.armed hSent
    · cases h.1
  · exact Publisher.forEach_true_of_mem
      (I := fun c => (c.tracker.record (publishedTargetId nodeId session.address.sessionId)).armed)
      (fun c previous hSent hc => hKeep c previous _ hSent hc)
      (fun c hSent => (Publisher.publishExit_publishes _).armed hSent) _ hExit _ hTrue

end Pass

/-- The full baseline over `observed` publishes for this target: it is observed,
or it was published last and is gone. -/
def Replayed (nodeId : String) (published observed : SessionMap) (targetId : String) : Prop :=
  (∃ e ∈ observed.entries, publishedTargetId nodeId e.2.address.sessionId = targetId) ∨
    ∃ e ∈ published.entries, e.1 ∉ observed ∧
      publishedTargetId nodeId e.2.address.sessionId = targetId

theorem mem_targets_fullBaseline {nodeId : String} {published observed : SessionMap} {k : String} :
    k ∈ (computeSessionSyncDelta published observed .fullBaseline).targets nodeId ↔
      Replayed nodeId published observed k := by
  have hPublish : ∀ s, s ∈ (computeSessionSyncDelta published observed .fullBaseline).publish ↔
      ∃ e ∈ observed.entries, e.2 = s := by
    intro s
    simp [computeSessionSyncDelta]
  have hExit : ∀ s, s ∈ (computeSessionSyncDelta published observed .fullBaseline).exit ↔
      ∃ e ∈ published.entries, e.1 ∉ observed ∧ e.2 = s := by
    intro s
    simp only [computeSessionSyncDelta, List.mem_filterMap, Option.ite_none_left_eq_some,
      Option.some.injEq]
  simp only [SessionSyncDelta.targets, List.map_append, List.mem_append, List.mem_map, hPublish,
    hExit, Replayed]
  constructor
  · rintro (⟨_, ⟨e, he, rfl⟩, hk⟩ | ⟨_, ⟨e, he, hNot, rfl⟩, hk⟩)
    · exact .inl ⟨e, he, hk⟩
    · exact .inr ⟨e, he, hNot, hk⟩
  · rintro (⟨e, he, hk⟩ | ⟨e, he, hNot, hk⟩)
    · exact .inl ⟨e.2, ⟨e, he, rfl⟩, hk⟩
    · exact .inr ⟨e.2, ⟨e, he, hNot, rfl⟩, hk⟩

/-! ## The loop -/

namespace SyncLoop

variable {nodeId : String} {env : SyncEnv} {s : SyncLoop}

/-- While connected, every pending publication will be sent again. -/
def NoneStranded (s : SyncLoop) : Prop :=
  s.tracker.connected → ∀ k, (s.tracker.record k).armed

/-- The catalog the baseline of a `SessionOpened` publishes. -/
def observedAtOpen (env : SyncEnv) (s : SyncLoop) : SessionMap :=
  (s.catalog.observe env.catalog).1.observed

/-- The baseline that is published to a session when it is opened; the flag says
whether the session takes all of it. -/
def baseline (nodeId : String) (env : SyncEnv) (s : SyncLoop)
    (session : RemoteNodeSessionHandle) : Publisher × Bool :=
  publishDelta nodeId session.sessionInstanceId env.sendOk env.now .fullBaseline
    { s.publisher with tracker := s.tracker.onConnected }
    (computeSessionSyncDelta s.publishedSessions (s.observedAtOpen env) .fullBaseline)

/-- When a session is opened and takes the whole baseline, this publishes for
every target with a pending publication. -/
def ReplaysPending (nodeId : String) (s : SyncLoop) : Input → Prop
  | .event env (.transport (.sessionOpened session)) =>
      s.phase = .serving → (s.baseline nodeId env session).2 = true →
        ∀ k, (s.tracker.record k).pending.isSome →
          Replayed nodeId s.publishedSessions (s.observedAtOpen env) k
  | _ => True

theorem NoneStranded.of_tracker {s' : SyncLoop} (h : NoneStranded s)
    (hEq : s'.tracker = s.tracker) : NoneStranded s' := by
  unfold NoneStranded
  rw [hEq]
  exact h

theorem NoneStranded.of_disconnected (h : s.tracker.connected = false) : NoneStranded s := by
  intro hConnected
  rw [h] at hConnected
  cases hConnected

theorem NoneStranded.publishObserved (h : NoneStranded s) (mode : SessionSyncMode) :
    NoneStranded (s.publishObserved nodeId env mode) := by
  cases hActive : s.activeSession with
  | none =>
    rw [publishObserved_none hActive]
    exact h
  | some handle =>
    rcases publishObserved_cases hActive rfl with ⟨hTrue, hEq⟩ | ⟨-, hEq⟩
    · rw [hEq]
      intro hConnected k
      exact publishDelta_keeps_armed hTrue (h (connected_publishDelta.symm.trans hConnected) k)
    · rw [hEq]
      exact .of_disconnected rfl

theorem sessionOpened_cases (session : RemoteNodeSessionHandle) :
    (s.baseline nodeId env session).2 = true ∧
        (s.sessionOpened nodeId env session).tracker = (s.baseline nodeId env session).1.tracker ∨
      (s.baseline nodeId env session).2 = false ∧
        (s.sessionOpened nodeId env session).tracker.connected = false := by
  have hCases :=
    @publishObserved_cases nodeId env .fullBaseline ((s.connected session).observe env).1
      session (s.baseline nodeId env session) rfl rfl
  rcases hCases with ⟨hTrue, hEq⟩ | ⟨hFalse, hEq⟩
  · exact .inl ⟨hTrue, congrArg tracker hEq⟩
  · exact .inr ⟨hFalse, congrArg (fun s => s.tracker.connected) hEq⟩

/-- **Opening a session strands nothing exactly when its baseline covers what is
pending.** -/
theorem noneStranded_sessionOpened_iff (session : RemoteNodeSessionHandle) :
    NoneStranded (s.sessionOpened nodeId env session) ↔
      ((s.baseline nodeId env session).2 = true →
        ∀ k, (s.tracker.record k).pending.isSome →
          Replayed nodeId s.publishedSessions (s.observedAtOpen env) k) := by
  have hRecord := s.tracker.record_onConnected
  rcases sessionOpened_cases (s := s) session with ⟨hTrue, hEq⟩ | ⟨hFalse, hLost⟩
  · unfold baseline at hTrue hEq ⊢
    constructor
    · -- an uncovered target keeps the record that `on_connected` left it with
      intro hNone _ k hPending
      rw [← mem_targets_fullBaseline]
      by_contra hNot
      have hArmed := hNone (by rw [hEq, connected_publishDelta]; rfl) k
      obtain ⟨p, hp⟩ := Option.isSome_iff_exists.mp hPending
      rw [hEq, record_publishDelta_of_notMem hNot, hRecord, hp] at hArmed
      cases hArmed
    · intro hCovers _ k
      rw [hEq]
      cases hPending : (s.tracker.record k).pending with
      | none =>
        refine publishDelta_keeps_armed hTrue ?_
        rw [hRecord, hPending]
        rfl
      | some p =>
        exact armed_of_mem_fullBaseline hTrue
          (mem_targets_fullBaseline.mpr (hCovers hTrue k (by rw [hPending]; rfl)))
  · refine ⟨fun _ hTrue => ?_, fun _ => .of_disconnected hLost⟩
    rw [hFalse] at hTrue
    cases hTrue

/-! ## Whole runs -/

theorem NoneStranded.onAck (h : NoneStranded s) (ack : TargetPublicationAckPayload) :
    NoneStranded (s.withTracker (s.tracker.onAck ack).1) := by
  by_cases hClears : SourcePublicationTracker.Clears (s.tracker.record ack.targetId) ack
  · intro hConnected k
    change ((s.tracker.onAck ack).1.record k).armed
    rw [SourcePublicationTracker.onAck_of_clears _ hClears,
      SourcePublicationTracker.record_setRecord]
    split
    · rfl
    · exact h (by simpa [withTracker, tracker] using hConnected) k
  · exact h.of_tracker (s.tracker.onAck_of_not_clears hClears)

theorem NoneStranded.retryDue (h : NoneStranded s) : NoneStranded (s.retryDue env) := by
  unfold SyncLoop.retryDue
  split
  · exact h
  · have hConnected := s.publisher.connected_retry env.sendOk env.now
      (s.tracker.dueRetryPublications env.now)
    have hArmed : s.tracker.connected → ∀ k, ((s.publisher.sendPendingSourcePublications env.sendOk
        env.now (s.tracker.dueRetryPublications env.now)).1.tracker.record k).armed :=
      fun hNow k => Publisher.retry_invariant (I := fun c => (c.tracker.record k).armed) _
        (fun c p _ hc => Publisher.armed_sendSourcePublication hc p) s.publisher (h hNow k)
    split
    · next c hEq =>
      rw [hEq] at hConnected hArmed
      exact fun hNow => hArmed (hConnected.symm.trans hNow)
    · exact .of_disconnected rfl

theorem NoneStranded.envelopeReceived (h : NoneStranded s) (envelope : GrpcNodeSessionEnvelope) :
    NoneStranded (s.envelopeReceived nodeId env envelope) := by
  unfold SyncLoop.envelopeReceived
  split
  · split
    · exact h.onAck _
    · exact h
  · exact h
  · have hObserved : NoneStranded (s.observe env).1 := h
    dsimp only
    split
    · split
      · exact hObserved.publishObserved .delta
      · exact hObserved
    · exact h
  · exact h

theorem NoneStranded.serve (h : NoneStranded s) {event : SessionSyncEvent}
    (hEvent : ∀ session, event ≠ .transport (.sessionOpened session)) :
    NoneStranded (s.serve nodeId env event) := by
  cases event with
  | transport event =>
    cases event with
    | sessionOpened session => exact absurd rfl (hEvent session)
    | envelopeReceived _ _ envelope => exact h.envelopeReceived envelope
    | sessionClosed _ _ => exact .of_disconnected rfl
    | transportFailed _ _ => exact .of_disconnected rfl
  | retryDue => exact h.retryDue
  | authorityHostOutput =>
    rw [SyncLoop.serve]
    split
    · exact .of_disconnected rfl
    · exact h
  | localCatalogChanged exited =>
    obtain ⟨hosts, hEq⟩ := dropExitedHost_eq nodeId s exited
    have hObserved : NoneStranded ((s.dropExitedHost nodeId exited).observe env).1 :=
      h.of_tracker (by rw [hEq]; rfl)
    rw [SyncLoop.serve]
    split
    · exact hObserved.publishObserved .delta
    · exact hObserved
  | stop => exact h

/-- Each step strands nothing exactly when it replays what is pending. -/
theorem noneStranded_step_iff (e : Input) (h : NoneStranded s) :
    NoneStranded (s.step nodeId e) ↔ ReplaysPending nodeId s e := by
  cases e with
  | dialed ok =>
    refine iff_of_true ?_ trivial
    rw [step]
    split
    · split
      · exact h
      · exact .of_disconnected rfl
    · exact h
  | waitElapsed =>
    refine iff_of_true ?_ trivial
    rw [step]
    split <;> exact h
  | event env event =>
    by_cases hPhase : s.phase = .serving
    · have hStep : s.step nodeId (.event env event) = s.serve nodeId env event := by
        rw [step, hPhase]
      rw [hStep]
      by_cases hOpen : ∃ session, event = .transport (.sessionOpened session)
      · obtain ⟨session, rfl⟩ := hOpen
        exact (noneStranded_sessionOpened_iff session).trans
          ⟨fun hs _ => hs, fun hs => hs hPhase⟩
      · have hNot : ∀ session, event ≠ .transport (.sessionOpened session) :=
          fun session hEq => hOpen ⟨session, hEq⟩
        refine iff_of_true (h.serve hNot) ?_
        unfold ReplaysPending
        split
        · next hEq => cases hEq; exact absurd rfl (hNot _)
        · trivial
    · refine iff_of_true ?_ ?_
      · rw [step]
        split
        · next hServing => exact absurd hServing hPhase
        · exact h.of_tracker (congrArg Publisher.tracker (publisher_waitEvent _ _ _ _ _))
        · exact h.of_tracker (congrArg Publisher.tracker (publisher_waitEvent _ _ _ _ _))
        · exact h
      · unfold ReplaysPending
        split
        · exact fun hServing => absurd hServing hPhase
        · trivial

/-- **In a run of the loop no publication is ever stranded exactly when every
baseline that a new session takes covers what is pending.** -/
theorem noneStranded_iff_replaysPending (nodeId : String) (es : List Input) :
    Always (step nodeId) NoneStranded {} es ↔
      EachStep (step nodeId) (ReplaysPending nodeId) {} es :=
  always_iff_eachStep (I := fun _ => True) (fun _ _ _ => trivial)
    (fun _ e _ h => noneStranded_step_iff e h) es {} trivial (.of_disconnected rfl)

/-- A session is published and exits; before its exit is acknowledged the
transport fails, and the loop connects again. -/
def exitBeforeReconnect : List Input :=
  let shell : ManagedSessionRecord :=
    { address := ⟨.localNode, "local#7474", "1"⟩, availability := .online }
  let running : SyncEnv := { catalog := some [shell] }
  let exited : SyncEnv := { now := 1000, catalog := some [] }
  let first : RemoteNodeSessionHandle := ⟨"node-a", "server-session-100", 0⟩
  let second : RemoteNodeSessionHandle := ⟨"node-a", "server-session-900", 1⟩
  [.dialed true, .event running (.transport (.sessionOpened first)),
   .event exited (.localCatalogChanged (some "local#7474:1")),
   .event exited (.transport (.transportFailed (some "node-a") (some "server-session-100"))),
   .waitElapsed, .dialed true, .event exited (.transport (.sessionOpened second))]

/-- The exit is never sent on the new session. -/
theorem exitBeforeReconnect_stranded :
    ¬ Always (step "node-a") NoneStranded {} exitBeforeReconnect := by
  intro hAlways
  have hLast := (always_iff _ _).mp hAlways exitBeforeReconnect List.prefix_rfl
  have hArmed := hLast (by decide) "remote-peer:node-a:1"
  revert hArmed
  decide

end SyncLoop

end WaitAgent.Remote
