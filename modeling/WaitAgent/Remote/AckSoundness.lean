import WaitAgent.Remote.Ingress
import WaitAgent.Verified.Run

/-!
# What an acknowledgement means

The source clears a pending publication when it is acknowledged as applied.
The receiver keeps two memories: the revision table, written after a successful
apply, and the fingerprints of a session, written before the publication is
even mapped.  A publication whose apply failed and that is received again on
the same session therefore meets its own fingerprint.  The main result says
exactly when acknowledgements can be trusted over a whole run of the server.
-/

namespace WaitAgent.Remote

open Verified Domain

namespace Ingress

/-! ## One envelope -/

section

variable {printable : Char → Bool} {env : Env} {nodeId : String}
  {envelope : GrpcNodeSessionEnvelope} {session : Option ActiveNodeIngressSession}
  {sockets : Finset String} {table : ReceiverPublicationRevisionTable}

/-- A numbered publication that the table does not know is answered from the
session's fingerprints alone, and the answer goes out. -/
def AnsweredFromFingerprint (printable : Char → Bool) (env : Env) (nodeId : String)
    (envelope : GrpcNodeSessionEnvelope) (session : Option ActiveNodeIngressSession)
    (table : ReceiverPublicationRevisionTable) : Prop :=
  ∃ payload active,
    envelope.body = some (.targetPublished payload) ∧ session = some active ∧
    table.decision (publicationRevisionKey nodeId payload.nodeInstanceId envelope
      payload.targetId) payload.revision = .apply ∧
    active.publishedFingerprints.lookup payload.transportSessionId
      = some (targetPublishedFingerprint printable payload) ∧
    env.sendOk (publicationAckEnvelope env active.session (publicationAck
      (publicationRevisionKey nodeId payload.nodeInstanceId envelope payload.targetId)
      payload.revision .applied none))

theorem handleTargetPublished_acksBacked {payload : GrpcTargetPublished}
    (hBody : envelope.body = some (.targetPublished payload))
    (hNot : ¬ AnsweredFromFingerprint printable env nodeId envelope session table) :
    AcksBacked
      (handleTargetPublished printable env nodeId envelope payload session table).effects := by
  unfold handleTargetPublished
  simp only
  split_ifs with hStale hSeen
  · exact acksBacked_sendPublicationAck (by simp [publicationAck])
  · -- a positive answer would be one from the fingerprints
    intro e hMem p _
    obtain ⟨-, hNumbered, active, hActive, hSend⟩ := mem_sendPublicationAck.mp hMem
    obtain ⟨active', hActive', hLookup⟩ := hSeen
    rw [Option.mem_def] at hActive hActive'
    rw [hActive, Option.some.injEq] at hActive'
    subst hActive'
    refine absurd ⟨payload, active, hBody, hActive, ?_, hLookup, hSend⟩ hNot
    rw [ReceiverPublicationRevisionTable.decision_eq_stale_iff, not_and] at hStale
    exact ReceiverPublicationRevisionTable.decision_eq_apply_iff.mpr
      ⟨hNumbered, not_le.mp (hStale hNumbered)⟩
  · split
    · exact acksBacked_nil
    · next mapped hMapped => exact applyAndAck_acksBacked (publication_mapTargetPublished hMapped)

/-- The effects and the table of `handle_target_exited` are those of its apply. -/
theorem handleTargetExited_of_not_stale (env : Env) (session : Option ActiveNodeIngressSession)
    (sockets : Finset String) {payload : GrpcTargetExited}
    (hStale : table.decision (publicationRevisionKey nodeId payload.nodeInstanceId envelope
      payload.targetId) payload.revision ≠ .stale) :
    let handled := handleTargetExited env nodeId envelope payload session sockets table
    let applied := applyAndAck env (publicationRevisionKey nodeId payload.nodeInstanceId envelope
      payload.targetId) payload.revision
      (mapTargetExitedEnvelope nodeId envelope env.nowMillis payload) (some sockets) session table
    handled.effects = applied.effects ∧ handled.table = applied.table := by
  simp only [handleTargetExited, if_neg hStale]
  split <;> exact ⟨rfl, rfl⟩

theorem handleTargetExited_acksBacked {payload : GrpcTargetExited} :
    AcksBacked
      (handleTargetExited env nodeId envelope payload session sockets table).effects := by
  by_cases hStale : table.decision (publicationRevisionKey nodeId payload.nodeInstanceId envelope
      payload.targetId) payload.revision = .stale
  · simp only [handleTargetExited, if_pos hStale]
    exact acksBacked_sendPublicationAck (by simp [publicationAck])
  · rw [(handleTargetExited_of_not_stale env session sockets hStale).1]
    exact applyAndAck_acksBacked (publication_mapTargetExited _ _ _ _)

/-- A mapped acknowledgement is no publication. -/
private theorem publication_mapTargetPublicationAck {nowMillis : Nat}
    {payload : GrpcTargetPublicationAck} {m : ProtocolEnvelope}
    (h : mapTargetPublicationAckEnvelope nodeId envelope nowMillis payload = .ok m) :
    m.publication = none := by
  unfold mapTargetPublicationAckEnvelope at h
  split at h
  · simp at h
  · simp only [Except.ok.injEq] at h
    subst h
    rfl

theorem routeTransportEnvelope_acksBacked (sockets : Finset String)
    (hNot : ¬ AnsweredFromFingerprint printable env nodeId envelope session table) :
    AcksBacked
      (routeTransportEnvelope printable env nodeId envelope session sockets table).effects := by
  unfold routeTransportEnvelope
  split
  · next payload hBody => exact handleTargetPublished_acksBacked hBody hNot
  · unfold handleTargetPublicationAck
    split
    · exact acksBacked_nil
    · intro e hMem p hp
      rw [List.mem_singleton.mp hMem] at hp
      simp [IngressEffect.ackedPublication] at hp
  · exact handleTargetExited_acksBacked
  · exact acksBacked_nil
  · exact acksBacked_nil

/-- Routing an envelope keeps the table ahead of what is applied. -/
theorem routeTransportEnvelope_tableCovers :
    TableCovers
      (routeTransportEnvelope printable env nodeId envelope session sockets table).table
      (routeTransportEnvelope printable env nodeId envelope session sockets table).effects := by
  have hAck : ∀ payload : GrpcTargetPublicationAck, ∀ t,
      TableCovers t (sendPublicationAck env session payload) := fun payload t p hp =>
    absurd hp not_appliedIn_sendPublicationAck
  have hNil : ∀ t, TableCovers t [] := fun t p hp => absurd hp not_appliedIn_nil
  unfold routeTransportEnvelope
  split
  · next payload hBody =>
    unfold handleTargetPublished
    simp only
    split_ifs with hStale hSeen
    · exact hAck _ _
    · exact hAck _ _
    · split
      · exact hNil _
      · next mapped hMapped =>
        exact applyAndAck_tableCovers (publication_mapTargetPublished hMapped)
  · next payload hBody =>
    unfold handleTargetPublicationAck
    split
    · exact hNil _
    · next mapped hMapped =>
      have hNone := publication_mapTargetPublicationAck hMapped
      exact fun p hp => absurd hp (not_appliedIn_singleton hNone)
  · next payload hBody =>
    by_cases hStale : table.decision (publicationRevisionKey nodeId payload.nodeInstanceId
        envelope payload.targetId) payload.revision = .stale
    · simp only [handleTargetExited, if_pos hStale]
      exact hAck _ _
    · obtain ⟨hEffects, hTable⟩ := handleTargetExited_of_not_stale env session sockets hStale
      rw [hEffects, hTable]
      exact applyAndAck_tableCovers (publication_mapTargetExited _ _ _ _)
  · exact hNil _
  · exact hNil _

theorem latest_le_routeTransportEnvelope (key : PublicationRevisionKey) :
    table.latest key ≤
      (routeTransportEnvelope printable env nodeId envelope session sockets table).table.latest
        key := by
  unfold routeTransportEnvelope
  split
  · unfold handleTargetPublished
    simp only
    split_ifs
    · exact le_rfl
    · exact le_rfl
    · split
      · exact le_rfl
      · exact latest_le_applyAndAck key
  · unfold handleTargetPublicationAck
    split <;> exact le_rfl
  · next payload hBody =>
    by_cases hStale : table.decision (publicationRevisionKey nodeId payload.nodeInstanceId
        envelope payload.targetId) payload.revision = .stale
    · simp only [handleTargetExited, if_pos hStale]
      exact le_rfl
    · rw [(handleTargetExited_of_not_stale env session sockets hStale).2]
      exact latest_le_applyAndAck key
  · exact le_rfl
  · exact le_rfl

/-- An answer from the fingerprints acknowledges what was not applied. -/
theorem AnsweredFromFingerprint.acked (sockets : Finset String)
    (h : AnsweredFromFingerprint printable env nodeId envelope session table) :
    ∃ e ∈ (routeTransportEnvelope printable env nodeId envelope session sockets table).effects,
      ∃ p ∈ e.ackedPublication, isLegacy p.1.nodeInstanceId p.2 = false ∧
        table.latest p.1 < p.2 ∧
        ¬ AppliedIn
          (routeTransportEnvelope printable env nodeId envelope session sockets table).effects
          p := by
  obtain ⟨payload, active, hBody, rfl, hDecision, hLookup, hSend⟩ := h
  obtain ⟨hNumbered, hLatest⟩ :=
    ReceiverPublicationRevisionTable.decision_eq_apply_iff.mp hDecision
  have hSeen : SeenLast printable payload (some active) := ⟨active, rfl, hLookup⟩
  have hEffects : (routeTransportEnvelope printable env nodeId envelope (some active) sockets
      table).effects = sendPublicationAck env (some active) (publicationAck
        (publicationRevisionKey nodeId payload.nodeInstanceId envelope payload.targetId)
        payload.revision .applied none) := by
    simp [routeTransportEnvelope, hBody, handleTargetPublished, hDecision, hSeen]
  rw [hEffects]
  exact ⟨_, mem_sendPublicationAck.mpr ⟨rfl, hNumbered, active, rfl, hSend⟩, _, rfl, hNumbered,
    hLatest, not_appliedIn_sendPublicationAck⟩

end

/-! ## Whole runs -/

/-- The next input is answered from the fingerprints of its session. -/
def AnswersFromFingerprint (printable : Char → Bool) (s : Ingress) : Input → Prop
  | .event env (.transport (.envelopeReceived nodeId id envelope)) =>
      id ∉ s.closedSessionInstances ∧
        AnsweredFromFingerprint printable env nodeId envelope (s.sessions.lookup id)
          s.publicationRevisions
  | _ => False

theorem OnlySignals.appliedIn_iff {before after : List IngressEffect}
    (h : OnlySignals before after) (p : PublicationRevisionKey × Nat) :
    AppliedIn after p ↔ AppliedIn before p := by
  obtain ⟨signals, rfl, hSignals⟩ := h
  rw [appliedIn_append, or_iff_left]
  rintro ⟨e, hMem, he⟩
  rcases hSignals e hMem with ⟨n, rfl⟩ | ⟨n, rfl⟩ <;>
    simp [IngressEffect.appliedPublication] at he

theorem OnlySignals.acksBacked {before after : List IngressEffect}
    (h : OnlySignals before after) (hBacked : AcksBacked before) : AcksBacked after := by
  intro e hMem p hp
  rw [h.appliedIn_iff]
  obtain ⟨signals, rfl, hSignals⟩ := h
  rcases List.mem_append.mp hMem with hOld | hNew
  · exact hBacked e hOld p hp
  · rcases hSignals e hNew with ⟨n, rfl⟩ | ⟨n, rfl⟩ <;>
      simp [IngressEffect.ackedPublication] at hp

/-- The two shapes of a step: an envelope of a session that is not closed is
routed, and everything else leaves the publications alone. -/
theorem step_cases (printable : Char → Bool) (s : Ingress) (input : Input) :
    (∃ env nodeId id envelope,
      input = .event env (.transport (.envelopeReceived nodeId id envelope)) ∧
      id ∉ s.closedSessionInstances ∧
      (s.step printable input).publicationRevisions =
        (routeTransportEnvelope printable env nodeId envelope (s.sessions.lookup id)
          s.registeredWorkspaceSockets s.publicationRevisions).table ∧
      (s.step printable input).log = s.log ++
        (routeTransportEnvelope printable env nodeId envelope (s.sessions.lookup id)
          s.registeredWorkspaceSockets s.publicationRevisions).effects) ∨
    (¬ AnswersFromFingerprint printable s input ∧
      PublicationsUntouched s (s.step printable input)) := by
  by_cases hEnvelope : ∃ env nodeId id envelope,
      input = .event env (.transport (.envelopeReceived nodeId id envelope))
  · obtain ⟨env, nodeId, id, envelope, rfl⟩ := hEnvelope
    by_cases hClosed : id ∈ s.closedSessionInstances
    · refine Or.inr ⟨fun h => h.1 hClosed, ?_⟩
      simp only [step, handleEvent, handleTransportEvent, handleEnvelopeReceived, if_pos hClosed]
      exact PublicationsUntouched.refl s
    · refine Or.inl ⟨env, nodeId, id, envelope, rfl, hClosed, ?_, ?_⟩ <;>
        simp only [step, handleEvent, handleTransportEvent, handleEnvelopeReceived,
          if_neg hClosed]
  · simp only [not_exists] at hEnvelope
    refine Or.inr ⟨?_, step_untouched printable s hEnvelope⟩
    unfold AnswersFromFingerprint
    split
    · next env nodeId id envelope => exact absurd rfl (hEnvelope env nodeId id envelope)
    · exact id

/-- The table stays ahead of everything applied. -/
theorem step_tableCovers (printable : Char → Bool) (s : Ingress) (input : Input)
    (h : TableCovers s.publicationRevisions s.log) :
    TableCovers (s.step printable input).publicationRevisions (s.step printable input).log := by
  intro p hp hNumbered
  rcases step_cases printable s input with
    ⟨env, nodeId, id, envelope, -, -, hTable, hLog⟩ | ⟨-, hTable, hLog⟩
  · rw [hLog, appliedIn_append] at hp
    rw [hTable]
    rcases hp with hp | hp
    · exact (h p hp hNumbered).trans (latest_le_routeTransportEnvelope p.1)
    · exact routeTransportEnvelope_tableCovers p hp hNumbered
  · rw [hTable]
    exact h p ((hLog.appliedIn_iff p).mp hp) hNumbered

/-- One step keeps the acknowledgements sound exactly when it does not answer
from the fingerprints. -/
theorem step_acksBacked_iff (printable : Char → Bool) (s : Ingress) (input : Input)
    (hCovers : TableCovers s.publicationRevisions s.log) (hBacked : AcksBacked s.log) :
    AcksBacked (s.step printable input).log ↔ ¬ AnswersFromFingerprint printable s input := by
  rcases step_cases printable s input with
    ⟨env, nodeId, id, envelope, rfl, hOpen, -, hLog⟩ | ⟨hNot, -, hLog⟩
  · rw [hLog]
    constructor
    · -- the acknowledged publication is newer than the table, so it was never applied
      rintro hAll ⟨-, hAnswer⟩
      obtain ⟨e, hMem, p, hp, hNumbered, hNewer, hNotHere⟩ :=
        hAnswer.acked s.registeredWorkspaceSockets
      rcases appliedIn_append.mp (hAll e (List.mem_append_right _ hMem) p hp) with hOld | hNew
      · exact absurd (hCovers _ hOld hNumbered) (not_le.mpr hNewer)
      · exact hNotHere hNew
    · intro hNot e hMem p hp
      rcases List.mem_append.mp hMem with hOld | hNew
      · exact (hBacked e hOld p hp).mono (List.subset_append_left _ _)
      · have hHere := routeTransportEnvelope_acksBacked s.registeredWorkspaceSockets
          (fun hAnswer => hNot ⟨hOpen, hAnswer⟩) e hNew p hp
        exact hHere.mono (List.subset_append_right _ _)
  · exact iff_of_true (hLog.acksBacked hBacked) hNot

/-- **Acknowledgements over whole runs.** In every state of a run of the
ingress server each publication acknowledged as applied has been applied,
exactly when no input of the run is answered from a session's fingerprints
while the revision table does not know its publication. -/
theorem appliedAcks_sound_iff (printable : Char → Bool) (inputs : List Input) :
    Always (step printable) (fun s => AcksBacked s.log) {} inputs ↔
      EachStep (step printable) (fun s input => ¬ AnswersFromFingerprint printable s input) {}
        inputs := by
  refine always_iff_eachStep (I := fun s : Ingress => TableCovers s.publicationRevisions s.log)
    (step_tableCovers printable) (step_acksBacked_iff printable) inputs {} ?_ ?_
  · exact fun p hp => absurd hp not_appliedIn_nil
  · exact acksBacked_nil

/-- A peer publishes one target; the first apply fails, the retry of the same
envelope finds the fingerprint of the first. -/
def retryAfterFailedApply : List Input :=
  let opened : RemoteNodeSessionHandle :=
    { nodeId := "peer", sessionInstanceId := "server-session-1" }
  let publication := remoteSessionPublishedEnvelope "peer" "server-session-1" 1 0
    { address := ⟨.localNode, "peer", "1"⟩, availability := .online } 1
  [.event {} (.transport (.sessionOpened opened)),
   .event { applyResult := .error "catalog is locked" }
     (.transport (.envelopeReceived "peer" "server-session-1" publication)),
   .event {} (.transport (.envelopeReceived "peer" "server-session-1" publication))]

/-- After the failed apply the retry is acknowledged as applied, although no
apply call has succeeded. -/
theorem retryAfterFailedApply_unsound :
    ¬ Always (step fun _ => true) (fun s => AcksBacked s.log) {} retryAfterFailedApply := by
  decide

end Ingress

end WaitAgent.Remote
