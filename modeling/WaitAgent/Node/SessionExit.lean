import WaitAgent.Node.SessionRemoval

/-!
# What is shown after a session exited

When a session exits, the server shows one of its own sessions that are online.
It does so whatever was shown before: a session of a peer that somebody looks at
gives way, and so does an own session when the catalog lists another one first.
The lifetime of the server is tied to its own sessions, so if none is online it
shows nothing and shuts down.

The order in which the catalog is visited is not fixed, and the results below
are about every order.
-/

namespace WaitAgent.Node

open Domain Verified

namespace SharedState

/-- The target is a session of the server's own that is online. -/
def IsLive (s : SharedState) (target : String) : Prop :=
  ∃ r, s.sessions.get target = some r ∧ r.address.transport = .localNode ∧
    r.availability = .online

/-- What is shown once `target` has exited. -/
structure ExitShows (s : SharedState) (target : String) : Prop where
  /-- what is shown is another live session, -/
  shown : ∀ order next, (s.handleSessionExit order target).activeTarget = some next →
    next ≠ target ∧ s.IsLive next
  /-- nothing is shown only if there is none, and then the server shuts down -/
  nothing : ∀ order, (s.handleSessionExit order target).activeTarget = none →
    (s.handleSessionExit order target).shutdown = true ∧ ∀ t, s.IsLive t → t = target
  /-- and what was shown is sure to stay only if it is the one live session left -/
  stays : ∀ active, s.activeTarget = some active → active ≠ target →
    (s.sessions.get active).isSome →
    ((∀ order, (s.handleSessionExit order target).activeTarget = some active) ↔
      s.IsLive active ∧ ∀ t, s.IsLive t → t ≠ target → t = active)

variable {s : SharedState} {order : Nat} {target t : String}

theorem isLive_forgetSession :
    (s.forgetSession target).IsLive t ↔ t ≠ target ∧ s.IsLive t := by
  obtain ⟨_, _, _, hForget⟩ := s.forgetSession_eq target
  rw [hForget]
  unfold IsLive
  dsimp only
  rw [SessionMap.get_remove]
  by_cases hSame : t = target
  · simp [hSame]
  · simp [hSame]

theorem mem_remainingLocal_forgetSession :
    t ∈ (s.forgetSession target).remainingLocal order ↔ t ≠ target ∧ s.IsLive t :=
  mem_remainingLocal.trans isLive_forgetSession

/-- The session that exited is gone from the catalog, so the preference for
another one has nothing to choose: the first live session is shown. -/
theorem handleSessionExit_activeTarget (s : SharedState) (order : Nat) (target : String) :
    (s.handleSessionExit order target).activeTarget
      = ((s.forgetSession target).remainingLocal order).head? := by
  have hOther : ∀ t ∈ (s.forgetSession target).remainingLocal order, (t != target) = true := by
    intro t hMem
    exact bne_iff_ne.mpr (mem_remainingLocal_forgetSession.mp hMem).1
  have hFind : ((s.forgetSession target).remainingLocal order).find? (· != target)
      = ((s.forgetSession target).remainingLocal order).head? := by
    rw [← List.head?_filter, List.filter_eq_self.mpr hOther]
  unfold handleSessionExit
  dsimp only
  rw [hFind, Option.or_self]
  cases ((s.forgetSession target).remainingLocal order).head? <;> rfl

/-- Every live session is visited first in some order. -/
theorem exists_remainingLocal_head (h : s.IsLive t) :
    ∃ order, (s.remainingLocal order).head? = some t := by
  obtain ⟨r, hGet, hLocal, hOnline⟩ := h
  have hTarget := SessionMap.qualifiedTarget_of_get hGet
  have hMem : r ∈ s.sessions.values := SessionMap.mem_values.mpr (hTarget ▸ hGet)
  obtain ⟨order, hLt, hAt⟩ := List.mem_iff_getElem.mp hMem
  have hFirst : (s.sessions.values.rotate order).head? = some r := by
    rw [List.head?_rotate hLt, List.getElem?_eq_getElem hLt, hAt]
  obtain ⟨rest, hRotated⟩ := List.head?_eq_some_iff.mp hFirst
  refine ⟨order, ?_⟩
  rw [remainingLocal, hRotated]
  simp [hLocal, hOnline, hTarget]

/-- **The session shown after an exit**, from any state and for any target. -/
theorem handleSessionExit_exitShows (s : SharedState) (target : String) :
    s.ExitShows target where
  shown order next hShown := by
    rw [handleSessionExit_activeTarget] at hShown
    exact mem_remainingLocal_forgetSession.mp (List.mem_of_mem_head? hShown)
  nothing order hNone := by
    have hEmpty : (s.forgetSession target).remainingLocal order = [] := by
      rw [handleSessionExit_activeTarget] at hNone
      exact List.head?_eq_none_iff.mp hNone
    constructor
    · unfold handleSessionExit
      dsimp only
      rw [hEmpty]
      rfl
    · intro t hLive
      by_contra hOther
      have hMem : t ∈ (s.forgetSession target).remainingLocal order :=
        mem_remainingLocal_forgetSession.mpr ⟨hOther, hLive⟩
      rw [hEmpty] at hMem
      exact List.not_mem_nil hMem
  stays active _ hOther _ := by
    constructor
    · intro hStays
      have hLive : s.IsLive active := by
        have hShown := hStays 0
        rw [handleSessionExit_activeTarget] at hShown
        exact (mem_remainingLocal_forgetSession.mp (List.mem_of_mem_head? hShown)).2
      refine ⟨hLive, fun t hLiveT hOtherT => ?_⟩
      -- the order in which `t` comes first shows `t`
      obtain ⟨order, hHead⟩ :=
        exists_remainingLocal_head (isLive_forgetSession.mpr ⟨hOtherT, hLiveT⟩)
      have hShown := hStays order
      rw [handleSessionExit_activeTarget, hHead] at hShown
      exact Option.some.inj hShown
    · rintro ⟨hLive, hOnly⟩ order
      rw [handleSessionExit_activeTarget]
      have hMem : active ∈ (s.forgetSession target).remainingLocal order :=
        mem_remainingLocal_forgetSession.mpr ⟨hOther, hLive⟩
      cases hRemaining : (s.forgetSession target).remainingLocal order with
      | nil =>
        rw [hRemaining] at hMem
        exact absurd hMem List.not_mem_nil
      | cons first rest =>
        have hFirst : first ∈ (s.forgetSession target).remainingLocal order := by
          rw [hRemaining]
          exact List.mem_cons_self
        obtain ⟨hOtherFirst, hLiveFirst⟩ := mem_remainingLocal_forgetSession.mp hFirst
        rw [hOnly first hLiveFirst hOtherFirst]
        rfl

end SharedState

/-- A server that has two sessions of its own, while a peer's session is shown. -/
def peerShown : StateLoop :=
  run StateLoop.step
    { port := 7474, env := { spawned := .ok 100 } : Startup }.loop
    [({ spawned := .ok 101 }, .createLocalSession),
      ({}, .remoteSessionCatalogUpdated
        { address := ⟨.remotePeer, "10.1.29.9#7575", "1"⟩, availability := .online }),
      ({ opened := .ok () }, .activateTarget "10.1.29.9#7575:1")]

/-- The exit of a session nobody looks at takes the peer's session off the screen. -/
theorem peerShown_replaced :
    ¬ ∀ active, peerShown.shared.activeTarget = some active → active ≠ "local#7474:2" →
      (peerShown.shared.sessions.get active).isSome →
      (peerShown.shared.handleSessionExit 0 "local#7474:2").activeTarget = some active := by
  intro hStays
  have hKept := hStays "10.1.29.9#7575:1" (by decide) (by decide) (by decide)
  revert hKept
  decide

end WaitAgent.Node
