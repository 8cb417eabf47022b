import Mathlib.Data.List.Rotate
import WaitAgent.Node.StateLoop
import WaitAgent.Verified.Run

/-!
# Sessions that leave the shared state

A session leaves the shared state when its shell exits, when a client closes it
and when its peer reports it closed.  All three forget the same things; they
differ in whom they tell.
-/

namespace WaitAgent.Node

open Domain Verified

namespace SharedState

variable {s s' s'' : SharedState}

/-! ## Operations -/

/-- All that an exit changes besides what is shown. -/
theorem handleSessionExit_eq (s : SharedState) (order : Nat) (target : String) :
    ∃ active shutdown, s.handleSessionExit order target
      = { s.forgetSession target with activeTarget := active, shutdown := shutdown } := by
  unfold handleSessionExit
  dsimp only
  split
  · exact ⟨_, _, rfl⟩
  · exact ⟨_, (s.forgetSession target).shutdown, rfl⟩

theorem forgetSession_eq (s : SharedState) (target : String) :
    ∃ locals hosts remotes, s.forgetSession target
      = { s with
          sessions := s.sessions.remove target
          localSessions := locals
          authorityHostSessions := hosts
          remoteSessions := remotes } := by
  unfold forgetSession
  dsimp only
  split
  · exact ⟨_, _, s.remoteSessions, rfl⟩
  · exact ⟨s.localSessions, s.authorityHostSessions, _, rfl⟩

@[simp] theorem handleSessionExit_sessions (s : SharedState) (order : Nat) (target : String) :
    (s.handleSessionExit order target).sessions = s.sessions.remove target := by
  obtain ⟨_, _, hExit⟩ := s.handleSessionExit_eq order target
  obtain ⟨_, _, _, hForget⟩ := s.forgetSession_eq target
  rw [hExit, hForget]

theorem mem_remainingLocal {order : Nat} {t : String} :
    t ∈ s.remainingLocal order ↔
      ∃ r, s.sessions.get t = some r ∧ r.address.transport = .localNode ∧
        r.availability = .online := by
  constructor
  · intro h
    obtain ⟨r, hMem, rfl⟩ := List.mem_map.mp h
    rw [List.mem_filter, List.mem_rotate] at hMem
    exact ⟨r, SessionMap.mem_values.mp hMem.1, by simpa using hMem.2⟩
  · rintro ⟨r, hGet, hLocal, hOnline⟩
    obtain rfl := SessionMap.qualifiedTarget_of_get hGet
    refine List.mem_map.mpr ⟨r, ?_, rfl⟩
    rw [List.mem_filter, List.mem_rotate]
    exact ⟨SessionMap.mem_values.mpr hGet, by simp [hLocal, hOnline]⟩

end SharedState

/-! ## Events -/

namespace StateLoop

open SharedState

theorem cancelReconnect_eq (l : StateLoop) (target : String) :
    ∃ handles, (l.cancelReconnect target).1 = { l with reconnectHandles := handles } := by
  unfold cancelReconnect
  split
  · exact ⟨l.reconnectHandles, rfl⟩
  · exact ⟨_, rfl⟩

theorem cancelReconnect_shared (l : StateLoop) (target : String) :
    (l.cancelReconnect target).1.shared = l.shared := by
  obtain ⟨_, h⟩ := cancelReconnect_eq l target
  rw [h]

theorem handleCloseSession_shared (l : StateLoop) (env : LoopEnv) (target : String) :
    (l.handleCloseSession env target).1.shared
      = l.shared.handleSessionExit env.order target := by
  unfold handleCloseSession handleSessionExit
  dsimp only
  rw [cancelReconnect_shared]

theorem handleSessionClosed_shared (l : StateLoop) (env : LoopEnv) (target : String) :
    (l.handleSessionClosed env target).1.shared
      = l.shared.handleSessionExit env.order target := by
  rw [← handleCloseSession_shared]
  unfold handleSessionClosed
  dsimp only
  split <;> rfl

end StateLoop

end WaitAgent.Node
