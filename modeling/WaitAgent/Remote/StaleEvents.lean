import WaitAgent.Remote.SyncLoop

/-!
# Late transport events in the session-sync loop

Every connection of the loop ends with a `SessionClosed`, often after a
`TransportFailed`, and all connections report to the same channel.  The loop
does not compare the session id of such an event with that of the session it
uses, so that the end of an earlier connection ends the current one.
-/

namespace WaitAgent.Remote

open Verified Domain

/-- The session whose end an event reports. -/
def RemoteNodeTransportEvent.endedSession : RemoteNodeTransportEvent → Option String
  | .sessionClosed _ id => some id
  | .transportFailed _ id => id
  | _ => none

namespace SyncLoop

variable {nodeId : String} {env : SyncEnv} {s : SyncLoop}

/-- The event reports the end of a session that is not the current one. -/
def IsStale (s : SyncLoop) : Input → Prop
  | .event _ (.transport event) => event.endedSession.any fun id => s.currentSession ≠ some id
  | _ => False

instance : ∀ (s : SyncLoop) (e : Input), Decidable (s.IsStale e)
  | s, .event _ (.transport event) =>
      inferInstanceAs
        (Decidable ((event.endedSession.any fun id => s.currentSession ≠ some id) = true))
  | _, .event _ .authorityHostOutput => isFalse id
  | _, .event _ (.localCatalogChanged _) => isFalse id
  | _, .event _ .retryDue => isFalse id
  | _, .event _ .stop => isFalse id
  | _, .dialed _ => isFalse id
  | _, .waitElapsed => isFalse id

/-- What the current session consists of is the same in both states. -/
structure SameSession (s s' : SyncLoop) : Prop where
  activeSession : s'.activeSession = s.activeSession
  connected : s'.tracker.connected = s.tracker.connected
  runningHosts : s'.runningHosts = s.runningHosts

/-- A session is lost only with its hosts, and without one the loop is not
connected. -/
structure Consistent (s : SyncLoop) : Prop where
  connected : s.tracker.connected →
    s.activeSession.isSome ∧ (s.phase = .serving ∨ s.phase = .stopped)
  idle : s.phase = .serving → s.activeSession = none → s.runningHosts = ∅

namespace Consistent

theorem of_lost (hConnected : s.tracker.connected = false) (hPhase : s.phase ≠ .serving) :
    Consistent s where
  connected hNow := by rw [hConnected] at hNow; cases hNow
  idle hServing := absurd hServing hPhase

theorem reconnect (s : SyncLoop) : Consistent s.reconnect :=
  of_lost rfl nofun

/-- In every phase but these two the tracker is disconnected. -/
theorem disconnected (h : Consistent s) (hServing : s.phase ≠ .serving)
    (hStopped : s.phase ≠ .stopped) : s.tracker.connected = false := by
  cases hConnected : s.tracker.connected with
  | false => rfl
  | true =>
    rcases (h.connected hConnected).2 with hPhase | hPhase
    · exact absurd hPhase hServing
    · exact absurd hPhase hStopped

theorem publishObserved (h : Consistent s) (mode : SessionSyncMode) :
    Consistent (s.publishObserved nodeId env mode) := by
  cases hActive : s.activeSession with
  | none =>
    rw [publishObserved_none hActive]
    exact { connected := h.connected, idle := h.idle }
  | some handle =>
    rcases publishObserved_cases hActive rfl with ⟨-, hEq⟩ | ⟨-, hEq⟩ <;> rw [hEq]
    · exact
        { connected := fun hNow => h.connected (connected_publishDelta.symm.trans hNow)
          idle := h.idle }
    · exact reconnect _

theorem observe (h : Consistent s) : Consistent (s.observe env).1 where
  connected := h.connected
  idle := h.idle

theorem dropExitedHost (h : Consistent s) (exited : Option String) :
    Consistent (s.dropExitedHost nodeId exited) := by
  unfold SyncLoop.dropExitedHost handleLocalTargetExited
  split
  · split
    · exact h
    · refine { connected := h.connected, idle := fun hServing hNone => ?_ }
      show s.runningHosts.erase _ = ∅
      rw [h.idle hServing hNone]
      rfl
  · exact h

theorem envelopeReceived (h : Consistent s) (envelope : GrpcNodeSessionEnvelope) :
    Consistent (s.envelopeReceived nodeId env envelope) := by
  unfold SyncLoop.envelopeReceived
  split
  · split
    · next ack _ =>
      refine { connected := fun hNow => h.connected ?_, idle := h.idle }
      exact (s.tracker.connected_onAck ack).symm.trans hNow
    · exact h
  · next hActive _ =>
    -- hosts start only while there is a session
    exact { connected := h.connected, idle := fun _ hNone => by cases hActive.symm.trans hNone }
  · dsimp only
    split
    · split
      · exact h.observe.publishObserved .delta
      · exact h.observe
    · exact h
  · exact h

theorem retryDue (h : Consistent s) : Consistent (s.retryDue env) := by
  unfold SyncLoop.retryDue
  split
  · exact h
  · next hActive =>
    split
    · next c hEq =>
      have hConnected := s.publisher.connected_retry env.sendOk env.now
        (s.tracker.dueRetryPublications env.now)
      rw [hEq] at hConnected
      exact
        { connected := fun hNow => h.connected (hConnected.symm.trans hNow), idle := h.idle }
    · exact reconnect _

theorem serve (h : Consistent s) (hServing : s.phase = .serving) (event : SessionSyncEvent) :
    Consistent (s.serve nodeId env event) := by
  cases event with
  | transport event =>
    cases event with
    | sessionOpened session =>
      have hOpened : Consistent (s.connected session) :=
        { connected := fun _ => ⟨rfl, .inl hServing⟩, idle := fun _ hNone => by cases hNone }
      exact hOpened.observe.publishObserved .fullBaseline
    | envelopeReceived _ _ envelope => exact h.envelopeReceived envelope
    | sessionClosed _ _ => exact reconnect _
    | transportFailed _ _ => exact reconnect _
  | retryDue => exact h.retryDue
  | authorityHostOutput =>
    rw [SyncLoop.serve]
    split
    · exact reconnect _
    · exact h
  | localCatalogChanged exited =>
    rw [SyncLoop.serve]
    split
    · exact (h.dropExitedHost exited).observe.publishObserved .delta
    · exact (h.dropExitedHost exited).observe
  | stop =>
    exact
      { connected := fun hNow => ⟨(h.connected hNow).1, .inr rfl⟩
        idle := fun hPhase => by cases hPhase }

theorem waitEvent (h : Consistent s) (hConnected : s.tracker.connected = false)
    (ofSession : Bool) (event : SessionSyncEvent) :
    Consistent (s.waitEvent nodeId env ofSession event) := by
  have hAfter := (congrArg (·.tracker.connected)
    (publisher_waitEvent nodeId env s ofSession event)).trans hConnected
  cases event with
  | stop => exact of_lost hAfter nofun
  | localCatalogChanged exited => exact of_lost hAfter nofun
  | transport event => exact h
  | authorityHostOutput => exact h
  | retryDue => exact h

theorem step (h : Consistent s) (e : Input) : Consistent (s.step nodeId e) := by
  have hIdle : ∀ phase, s.phase = phase → phase ≠ .serving → phase ≠ .stopped →
      s.tracker.connected = false := by
    rintro _ rfl
    exact h.disconnected
  cases e with
  | dialed ok =>
    rw [SyncLoop.step]
    split
    · next hPhase =>
      have hConnected := hIdle .dialing hPhase nofun nofun
      split
      · exact
          { connected := fun hNow => by cases hConnected.symm.trans hNow
            idle := fun _ _ => rfl }
      · exact of_lost rfl nofun
    · exact h
  | event env event =>
    rw [SyncLoop.step]
    split
    · next hPhase => exact h.serve hPhase event
    · next hPhase => exact h.waitEvent (hIdle _ hPhase nofun nofun) false event
    · next hPhase => exact h.waitEvent (hIdle _ hPhase nofun nofun) true event
    · exact h
  | waitElapsed =>
    rw [SyncLoop.step]
    split
    · next hPhase => exact of_lost (hIdle _ hPhase nofun nofun) nofun
    · next hPhase => exact of_lost (hIdle _ hPhase nofun nofun) nofun
    · exact h

end Consistent

/-! ## When the current session survives -/

/-- Every late end is handled as a lost session. -/
theorem IsStale.ends {e : Input} (h : s.IsStale e) :
    ∃ env event, e = .event env (.transport event) ∧
      ∀ nodeId env (s : SyncLoop), s.handleTransportEvent nodeId env event = s.sessionLost := by
  unfold IsStale at h
  split at h
  · next env event =>
    refine ⟨env, event, rfl, ?_⟩
    cases event with
    | sessionOpened _ => cases h
    | envelopeReceived _ _ _ => cases h
    | sessionClosed _ _ => exact fun _ _ _ => rfl
    | transportFailed _ _ => exact fun _ _ _ => rfl
  · exact h.elim

/-- A late end of an earlier session leaves the current one alone exactly when
the loop is not serving a session at that time. -/
theorem sameSession_step_iff (h : Consistent s) {e : Input} (hStale : s.IsStale e) :
    SameSession s (s.step nodeId e) ↔ ¬ (s.phase = .serving ∧ s.activeSession.isSome) := by
  obtain ⟨env, event, rfl, hEnds⟩ := hStale.ends
  by_cases hPhase : s.phase = .serving
  · have hStep : s.step nodeId (.event env (.transport event)) = s.sessionLost := by
      rw [SyncLoop.step, hPhase]
      exact hEnds nodeId env s
    rw [hStep]
    cases hActive : s.activeSession with
    | none =>
      refine iff_of_true ?_ (by simp)
      have hConnected : s.tracker.connected = false := by
        cases hNow : s.tracker.connected with
        | false => rfl
        | true => simpa [hActive] using (h.connected hNow).1
      exact
        { activeSession := hActive.symm
          connected := hConnected.symm
          runningHosts := (h.idle hPhase hActive).symm }
    | some handle =>
      refine iff_of_false (fun hSame => ?_) (by simp [hPhase])
      cases hActive.symm.trans hSame.activeSession.symm
  · have hStep : s.step nodeId (.event env (.transport event)) = s := by
      rw [SyncLoop.step]
      split
      · next hServing => exact absurd hServing hPhase
      · rfl
      · rfl
      · rfl
    rw [hStep]
    exact iff_of_true ⟨rfl, rfl, rfl⟩ fun hBoth => hPhase hBoth.1

/-- **Late ends of earlier sessions leave the current one alone throughout a run
exactly when the loop takes each of them while it serves no session.** -/
theorem stale_events_harmless_iff (nodeId : String) (es : List Input) :
    EachStep (SyncLoop.step nodeId)
        (fun s e => s.IsStale e → SameSession s (s.step nodeId e)) {} es ↔
      EachStep (SyncLoop.step nodeId)
        (fun s e => s.IsStale e → ¬ (s.phase = .serving ∧ s.activeSession.isSome)) {} es :=
  eachStep_iff (I := Consistent) (fun _ e h => h.step e)
    (fun _ _ h => imp_congr_right fun hStale => sameSession_step_iff h hStale) es {}
    (.of_lost rfl nofun)

/-- A send on the first session fails.  Its worker is told to stop only when the
loop dials again, and reports the end of the session after the new one was
opened. -/
def closedAfterReconnect : List Input :=
  let first : RemoteNodeSessionHandle := ⟨"node-a", "server-session-100", 0⟩
  let second : RemoteNodeSessionHandle := ⟨"node-a", "server-session-900", 1⟩
  [.dialed true, .event {} (.transport (.sessionOpened first)),
   .event { outputOk := false } .authorityHostOutput, .waitElapsed, .dialed true,
   .event {} (.transport (.sessionOpened second)),
   .event {} (.transport (.sessionClosed "node-a" "server-session-100"))]

/-- It takes the new session down. -/
theorem closedAfterReconnect_not_harmless :
    ¬ EachStep (SyncLoop.step "node-a")
      (fun s e => s.IsStale e → SameSession s (s.step "node-a" e)) {} closedAfterReconnect := by
  intro hEach
  obtain ⟨-, -, -, -, -, -, hLast, -⟩ := hEach
  exact absurd (hLast (by decide)).activeSession (by decide)

end SyncLoop

end WaitAgent.Remote
