import Mathlib.Data.List.Rotate
import WaitAgent.Node.AuthorityHostIo
import WaitAgent.Verified.Run

/-!
# The consoles of a hosted session

Several consoles can watch one hosted shell, and each asks for the size of its
own window.  One of them is active and decides; the local console, which stands
for all clients of this server, comes before every remote viewer.

This module is about the IO loop alone.  Whatever consoles ask for, in which
order, and whichever console an election finds first, the active console and the
size of the terminal stay tied to each other, as long as the loop runs.
-/

namespace WaitAgent.Node

open Verified

/-! ## Elections -/

namespace HostSessionState

variable {consoles : HashMap String ConsoleState} {order : Nat}

theorem mem_of_electActiveConsole {next : String}
    (h : electActiveConsole consoles order = some next) : next ∈ consoles := by
  unfold electActiveConsole at h
  split at h
  · rename_i hLocal
    obtain rfl := Option.some.inj h
    exact AList.lookup_isSome.mp hLocal
  · have hMem := List.mem_of_head? h
    rw [List.mem_rotate] at hMem
    exact hMem

theorem electActiveConsole_of_local (h : "local" ∈ consoles) :
    electActiveConsole consoles order = some "local" := by
  rw [electActiveConsole, if_pos (AList.lookup_isSome.mpr h)]

/-- Somebody is elected when anybody is there. -/
theorem electActiveConsole_eq_none (h : electActiveConsole consoles order = none) (c : String) :
    c ∉ consoles := by
  unfold electActiveConsole at h
  split at h
  · cases h
  · rw [List.head?_eq_none_iff, List.rotate_eq_nil_iff] at h
    intro hMem
    have hKey : c ∈ consoles.keys := hMem
    rw [h] at hKey
    cases hKey

end HostSessionState

/-! ## What the consoles of one session asked for -/

/-- The request neither starts nor ends the session with the id. -/
def AuthorityHostIoRequest.leavesOpen (sessionId : String) : AuthorityHostIoRequest → Bool
  | .registerSession id _ _ _ => id != sessionId
  | .unregisterSession id => id != sessionId
  | _ => true

/-- The IO loop from the time a session was registered.  The model notes, for
its own use, which consoles asked for a size and did not leave since, the size
each console asked for last, also when it has left, and which console was the
last to be active. -/
structure Arbitration where
  io : AuthorityHostIoLoop
  registered : String → Bool := fun _ => false
  given : HashMap String (Nat × Nat) := ∅
  lastActive : Option String := none

/-- A request the IO loop serves, with the order in which it visits consoles. -/
structure ConsoleTurn (sessionId : String) where
  request : AuthorityHostIoRequest
  order : Nat
  leavesOpen : request.leavesOpen sessionId = true

namespace Arbitration

variable {sessionId : String}

/-- The session is registered with the IO loop, whatever else this one holds. -/
def start (io : AuthorityHostIoLoop) (sessionId : String) (child cols rows : Nat) :
    Arbitration where
  io := { sessions := io.sessions.insert sessionId (.new child cols rows) }

/-- The sizes asked for in the session. -/
def noted (sessionId : String) (given : HashMap String (Nat × Nat)) :
    AuthorityHostIoRequest → HashMap String (Nat × Nat)
  | .resize id consoleId cols rows =>
      if id = sessionId then given.insert consoleId (cols, rows) else given
  | _ => given

/-- The consoles that are there after a request. -/
def present (sessionId : String) (registered : String → Bool) :
    AuthorityHostIoRequest → String → Bool
  | .resize id consoleId _ _ =>
      if id = sessionId then Function.update registered consoleId true else registered
  | .unregisterConsole id consoleId =>
      if id = sessionId then Function.update registered consoleId false else registered
  | _ => registered

def step (panics : Nat × Nat → Bool) (a : Option Arbitration) (turn : ConsoleTurn sessionId) :
    Option Arbitration := do
  let a ← a
  let io ← a.io.drainRequest panics turn.order turn.request
  return {
    io
    registered := present sessionId a.registered turn.request
    given := noted sessionId a.given turn.request
    lastActive := ((io.sessions.lookup sessionId).bind (·.activeConsole)).or a.lastActive }

end Arbitration

/-- How the consoles of a session, the active one and the sizes belong together. -/
structure HostSessionState.Arbitrated (s : HostSessionState) (registered : String → Bool)
    (given : HashMap String (Nat × Nat)) (lastActive : Option String) : Prop where
  present : ∀ c, c ∈ s.consoles ↔ registered c = true
  active_given : ∀ c, s.activeConsole = some c → c ∈ s.consoles
  none_active : s.activeConsole = none → ∀ c, c ∉ s.consoles
  local_first : "local" ∈ s.consoles → s.activeConsole = some "local"
  remembered : ∀ c console, s.consoles.lookup c = some console →
    given.lookup c = some (console.cols, console.rows)
  last : ∀ c, s.activeConsole = some c → lastActive = some c
  sized : ∀ c, lastActive = some c → given.lookup c = some s.size
  pty : s.ptySize = s.size
  someone : ∀ c, c ∈ given → lastActive ≠ none

namespace HostSessionState

variable {panics : Nat × Nat → Bool} {s s' : HostSessionState} {registered : String → Bool}
  {given : HashMap String (Nat × Nat)} {lastActive : Option String}

/-- A session that was just registered has no consoles. -/
theorem arbitrated_new (child cols rows : Nat) :
    (new child cols rows).Arbitrated (fun _ => false) ∅ none where
  present c := iff_of_false (AList.notMem_empty c) (by simp)
  active_given c h := by cases h
  none_active _ c := AList.notMem_empty c
  local_first h := absurd h (AList.notMem_empty _)
  remembered c console h := absurd (AList.mem_iff_lookup.mpr ⟨console, h⟩) (AList.notMem_empty c)
  last c h := by cases h
  sized c h := by cases h
  pty := rfl
  someone c h := absurd h (AList.notMem_empty c)

theorem resizeTo_spec {cols rows : Nat} (h : s.resizeTo panics cols rows = some s') :
    s' = { s with ptySize := (cols, rows), size := (cols, rows) } := by
  unfold resizeTo at h
  split at h
  · cases h
  · exact (Option.some.inj h).symm

/-- The consoles after a resize that takes effect are sized like the terminal. -/
theorem applyConsoleResize_activates {consoleId : String} {cols rows : Nat} {changed : Bool}
    (hResize : s.applyConsoleResize panics consoleId cols rows = some (s', changed))
    (h : ¬ (s.activeConsole = some "local" ∧ consoleId ≠ "local")) :
    ∃ ptySize, s' = { s with
        consoles := s.consoles.insert consoleId { cols, rows }
        activeConsole := some consoleId
        size := (cols, rows)
        ptySize } ∧
      (s.ptySize = s.size → ptySize = (cols, rows)) := by
  unfold applyConsoleResize at hResize
  dsimp only at hResize
  rw [if_neg h] at hResize
  by_cases hSame : s.size = (cols, rows)
  · -- skipped: the terminal has the size already
    rw [if_pos hSame] at hResize
    cases hResize
    refine ⟨s.ptySize, ?_, fun hPty => hPty.trans hSame⟩
    rw [← hSame]
  · rw [if_neg hSame] at hResize
    obtain ⟨s'', hResized, hEq⟩ := Option.map_eq_some_iff.mp hResize
    cases hEq
    exact ⟨(cols, rows), resizeTo_spec hResized, fun _ => rfl⟩

theorem arbitrated_resize (h : s.Arbitrated registered given lastActive) {consoleId : String}
    {cols rows : Nat} {changed : Bool}
    (hResize : s.applyConsoleResize panics consoleId cols rows = some (s', changed)) :
    s'.Arbitrated (Function.update registered consoleId true)
      (given.insert consoleId (cols, rows)) (s'.activeConsole.or lastActive) := by
  have hPresent : ∀ c, c ∈ s.consoles.insert consoleId { cols, rows } ↔
      Function.update registered consoleId true c = true := by
    intro c
    by_cases hSame : c = consoleId <;> simp [hSame, AList.mem_insert, h.present]
  have hRemembered : ∀ c console, (s.consoles.insert consoleId { cols, rows }).lookup c
      = some console → (given.insert consoleId (cols, rows)).lookup c
        = some (console.cols, console.rows) := by
    intro c console hLookup
    rw [AList.lookup_insert_eq_ite] at hLookup ⊢
    by_cases hSame : c = consoleId
    · rw [if_pos hSame] at hLookup ⊢
      rw [← Option.some.inj hLookup]
    · rw [if_neg hSame] at hLookup ⊢
      exact h.remembered c console hLookup
  by_cases hKept : s.activeConsole = some "local" ∧ consoleId ≠ "local"
  · -- the local console keeps the terminal
    obtain rfl : { s with consoles := s.consoles.insert consoleId { cols, rows } } = s' := by
      unfold applyConsoleResize at hResize
      dsimp only at hResize
      rw [if_pos hKept] at hResize
      cases hResize
      rfl
    have hLocal := h.last "local" hKept.1
    have hLast : s.activeConsole.or lastActive = some "local" := by
      rw [hKept.1, Option.some_or]
    rw [hLast]
    exact {
      present := hPresent
      active_given := fun c hc => (AList.mem_insert _).mpr (.inr (h.active_given c hc))
      none_active := fun hNone => absurd (hKept.1.symm.trans hNone) (by simp)
      local_first := fun _ => hKept.1
      remembered := hRemembered
      last := fun c hc => hKept.1.symm.trans hc
      sized := fun c hc => by
        obtain rfl := Option.some.inj hc
        rw [AList.lookup_insert_ne (Ne.symm hKept.2)]
        exact h.sized "local" hLocal
      pty := h.pty
      someone := fun _ _ => by simp }
  · obtain ⟨ptySize, rfl, hPty⟩ := applyConsoleResize_activates hResize hKept
    simp only [Option.some_or]
    exact {
      present := hPresent
      active_given := fun c hc => by
        obtain rfl := Option.some.inj hc
        exact (AList.mem_insert _).mpr (.inl rfl)
      none_active := fun hNone => by cases hNone
      local_first := fun hMem => by
        -- a console that is not the local one was let in because the local one is not there
        by_contra hOther
        have hNe : consoleId ≠ "local" := fun hEq => hOther (congrArg some hEq)
        have hOld : "local" ∈ s.consoles :=
          ((AList.mem_insert _).mp hMem).resolve_left (Ne.symm hNe)
        exact hKept ⟨h.local_first hOld, hNe⟩
      remembered := hRemembered
      last := fun c hc => hc
      sized := fun c hc => by
        obtain rfl := Option.some.inj hc
        exact AList.lookup_insert _
      pty := hPty h.pty
      someone := fun _ _ => by simp }

theorem arbitrated_unregister (h : s.Arbitrated registered given lastActive) {order : Nat}
    {consoleId : String} (hLeave : s.unregisterConsole panics order consoleId = some s') :
    s'.Arbitrated (Function.update registered consoleId false) given
      (s'.activeConsole.or lastActive) := by
  have hPresent : ∀ c, c ∈ s.consoles.erase consoleId ↔
      Function.update registered consoleId false c = true := by
    intro c
    by_cases hSame : c = consoleId <;> simp [hSame, AList.mem_erase, h.present]
  have hRemembered : ∀ c console, (s.consoles.erase consoleId).lookup c = some console →
      given.lookup c = some (console.cols, console.rows) := by
    intro c console hLookup
    exact h.remembered c console (AList.lookup_of_erase hLookup).2
  unfold unregisterConsole at hLeave
  dsimp only at hLeave
  by_cases hActive : s.activeConsole = some consoleId
  · rw [if_pos hActive] at hLeave
    cases hElect : electActiveConsole (s.consoles.erase consoleId) order with
    | none =>
      have hNobody := electActiveConsole_eq_none hElect
      rw [hElect] at hLeave
      cases hLeave
      rw [Option.none_or]
      exact {
        present := hPresent
        active_given := fun c hc => by cases hc
        none_active := fun _ => hNobody
        local_first := fun hMem => absurd hMem (hNobody "local")
        remembered := hRemembered
        last := fun c hc => by cases hc
        sized := h.sized
        pty := h.pty
        someone := h.someone }
    | some next =>
      have hMem := mem_of_electActiveConsole hElect
      obtain ⟨console, hConsole⟩ := AList.mem_iff_lookup.mp hMem
      simp only [hElect, hConsole] at hLeave
      obtain ⟨resized, hResized, rfl⟩ := Option.map_eq_some_iff.mp hLeave
      rw [resizeTo_spec hResized]
      simp only [Option.some_or]
      exact {
        present := hPresent
        active_given := fun c hc => by
          obtain rfl := Option.some.inj hc
          exact hMem
        none_active := fun hNone => by cases hNone
        local_first := fun hLocal => by
          exact hElect.symm.trans (electActiveConsole_of_local hLocal)
        remembered := hRemembered
        last := fun c hc => hc
        sized := fun c hc => by
          obtain rfl := Option.some.inj hc
          exact hRemembered next console hConsole
        pty := rfl
        someone := fun _ _ => by simp }
  · rw [if_neg hActive] at hLeave
    cases hLeave
    dsimp only
    have hLast : s.activeConsole.or lastActive = lastActive := by
      cases hCases : s.activeConsole with
      | none => rfl
      | some c => rw [h.last c hCases, Option.some_or]
    rw [hLast]
    exact {
      present := hPresent
      active_given := fun c hc => by
        refine AList.mem_erase.mpr ⟨fun hEq => hActive (hEq ▸ hc), h.active_given c hc⟩
      none_active := fun hNone c hMem => h.none_active hNone c (AList.mem_erase.mp hMem).2
      local_first := fun hMem => h.local_first (AList.mem_erase.mp hMem).2
      remembered := hRemembered
      last := h.last
      sized := h.sized
      pty := h.pty
      someone := h.someone }

end HostSessionState

/-! ## Whole runs of requests -/

/-- What a request does to the session with the id, as long as it stays open. -/
def HostSessionState.serve (panics : Nat × Nat → Bool) (sessionId : String) (order : Nat)
    (s : HostSessionState) : AuthorityHostIoRequest → Option HostSessionState
  | .resize id consoleId cols rows =>
      if id = sessionId then (s.applyConsoleResize panics consoleId cols rows).map Prod.fst
      else some s
  | .unregisterConsole id consoleId =>
      if id = sessionId then s.unregisterConsole panics order consoleId else some s
  | _ => some s

variable {panics : Nat × Nat → Bool} {sessionId : String} {s : HostSessionState}

theorem AuthorityHostIoLoop.lookup_update {io io' : AuthorityHostIoLoop} {id : String}
    {f : HostSessionState → Option HostSessionState} (hUpdate : io.update id f = some io')
    (hLookup : io.sessions.lookup sessionId = some s) :
    ∃ s', (if id = sessionId then f s else some s) = some s' ∧
      io'.sessions.lookup sessionId = some s' := by
  unfold update at hUpdate
  by_cases hSame : id = sessionId
  · subst hSame
    rw [hLookup] at hUpdate
    obtain ⟨s', hs', rfl⟩ := Option.map_eq_some_iff.mp hUpdate
    exact ⟨s', by rwa [if_pos rfl], AList.lookup_insert _⟩
  · refine ⟨s, if_neg hSame, ?_⟩
    split at hUpdate
    · cases hUpdate
      exact hLookup
    · obtain ⟨state, -, rfl⟩ := Option.map_eq_some_iff.mp hUpdate
      exact (AList.lookup_insert_ne (Ne.symm hSame)).trans hLookup

/-- A session is changed by the requests about it and by no others. -/
theorem AuthorityHostIoLoop.lookup_drainRequest {io io' : AuthorityHostIoLoop} {order : Nat}
    {request : AuthorityHostIoRequest} (hServed : io.drainRequest panics order request = some io')
    (hOpen : request.leavesOpen sessionId = true)
    (hLookup : io.sessions.lookup sessionId = some s) :
    ∃ s', s.serve panics sessionId order request = some s' ∧
      io'.sessions.lookup sessionId = some s' := by
  cases request with
  | resize id consoleId cols rows => exact lookup_update hServed hLookup
  | unregisterConsole id consoleId => exact lookup_update hServed hLookup
  | registerSession id child cols rows =>
    have hOther : id ≠ sessionId := by simpa [AuthorityHostIoRequest.leavesOpen] using hOpen
    cases hServed
    exact ⟨s, rfl, (AList.lookup_insert_ne (Ne.symm hOther)).trans hLookup⟩
  | unregisterSession id =>
    have hOther : id ≠ sessionId := by simpa [AuthorityHostIoRequest.leavesOpen] using hOpen
    cases hServed
    exact ⟨s, rfl, (AList.lookup_erase_ne (Ne.symm hOther)).trans hLookup⟩

namespace Arbitration

/-- The session is open and its consoles and sizes belong together. -/
def Settled (sessionId : String) (a : Arbitration) : Prop :=
  ∃ s, a.io.sessions.lookup sessionId = some s ∧
    s.Arbitrated a.registered a.given a.lastActive

theorem settled_start (io : AuthorityHostIoLoop) (child cols rows : Nat) :
    (start io sessionId child cols rows).Settled sessionId :=
  ⟨_, AList.lookup_insert _, HostSessionState.arbitrated_new child cols rows⟩

theorem settled_step (a : Option Arbitration) (turn : ConsoleTurn sessionId)
    (h : ∀ b ∈ a, b.Settled sessionId) : ∀ b ∈ step panics a turn, b.Settled sessionId := by
  intro b hb
  obtain ⟨a, rfl, hb⟩ := Option.bind_eq_some_iff.mp hb
  obtain ⟨io, hServed, hb⟩ := Option.bind_eq_some_iff.mp hb
  cases hb
  obtain ⟨s, hLookup, hs⟩ := h a rfl
  obtain ⟨s', hServe, hLookup'⟩ := AuthorityHostIoLoop.lookup_drainRequest hServed turn.leavesOpen
    hLookup
  refine ⟨s', hLookup', ?_⟩
  simp only [hLookup', Option.bind_some]
  have hSame : s.Arbitrated a.registered a.given (s.activeConsole.or a.lastActive) := by
    cases hActive : s.activeConsole with
    | none => exact hs
    | some c =>
      rw [Option.some_or, ← hs.last c hActive]
      exact hs
  cases hRequest : turn.request with
  | resize id consoleId cols rows =>
    rw [hRequest, HostSessionState.serve] at hServe
    rw [noted, present]
    by_cases hId : id = sessionId
    · rw [if_pos hId] at hServe
      obtain ⟨⟨_, changed⟩, hResize, rfl⟩ := Option.map_eq_some_iff.mp hServe
      rw [if_pos hId, if_pos hId]
      exact HostSessionState.arbitrated_resize hs hResize
    · rw [if_neg hId] at hServe
      cases hServe
      rw [if_neg hId, if_neg hId]
      exact hSame
  | unregisterConsole id consoleId =>
    rw [hRequest, HostSessionState.serve] at hServe
    simp only [noted, present]
    by_cases hId : id = sessionId
    · rw [if_pos hId] at hServe ⊢
      exact HostSessionState.arbitrated_unregister hs hServe
    · rw [if_neg hId] at hServe ⊢
      cases hServe
      exact hSame
  | registerSession id child cols rows | unregisterSession id =>
    rw [hRequest] at hServe
    cases hServe
    exact hSame

end Arbitration

/-- Two viewers, of which the second leaves again; sizes without rows or columns panic. -/
def twoViewers : List (ConsoleTurn "s") :=
  [⟨.resize "s" "a" 80 24, 0, rfl⟩, ⟨.resize "s" "b" 100 40, 0, rfl⟩,
    ⟨.unregisterConsole "s" "b", 0, rfl⟩]

end WaitAgent.Node
