import WaitAgent.Mux.Calls
import WaitAgent.Mux.Endpoint

/-!
# The heartbeats of a relay link

`heartbeat_loop` waits for the stop watch and for its timer, whichever is ready.  At a tick it
sends a frame with `send_control`, and returns if that fails.  `send_control` does not wait for
room: a full queue and a closed one are the same error to the loop, so a tick that finds the
queue full ends the heartbeats of a live link.
-/

namespace WaitAgent.Relay

open Verified Mux Mux.Connection

/-! ## `send_control` -/

inductive ControlError where
  | notRelayLink
  | nodeIdTooLong (length : Nat)
  | notControl (frame : Frame)
  | connectionClosed (reason : String)
  deriving DecidableEq

/-- What is wrong with a frame for the relay. -/
def controlViolation : Frame → Option ControlError
  | .register nodeId | .watch nodeId =>
      if maxNodeIdLen < Frame.textLen nodeId then some (.nodeIdTooLong (Frame.textLen nodeId))
      else none
  | .unregister | .heartbeat | .adminRequest _ _ => none
  | frame => some (.notControl frame)

/-- `MuxOpener::send_control`, with its error. -/
def trySendControl (c : Connection) (frame : Frame) : Except ControlError Connection :=
  if c.mode ≠ .relayLink then .error .notRelayLink
  else
    match controlViolation frame with
    | some violation => .error violation
    | none =>
        match c.queue with
        | .queued => .ok (c.enqueue [frame])
        | .full => .error (.connectionClosed "mux outbound queue is full")
        | .closed => .error (.connectionClosed c.link.deadReason)

theorem isNone_controlViolation (frame : Frame) :
    (controlViolation frame).isNone = mayControl frame := by
  cases frame with
  | register nodeId | watch nodeId =>
    by_cases hLong : maxNodeIdLen < Frame.textLen nodeId
    · simp [controlViolation, mayControl, hLong]
    · simp [controlViolation, mayControl, hLong, Nat.not_lt.mp hLong]
  | _ => rfl

/-- The connection after `send_control`, whatever it returns. -/
theorem sendControl_eq (c : Connection) (frame : Frame) :
    c.sendControl frame = (trySendControl c frame).toOption.getD c := by
  have hMay := isNone_controlViolation frame
  unfold Connection.sendControl trySendControl
  by_cases hMode : c.mode = .relayLink
  · rw [if_neg (not_not.mpr hMode), ← hMay]
    cases controlViolation frame with
    | some violation => simp [Except.toOption]
    | none => cases hQueue : c.queue <;> simp [hMode, Except.toOption]
  · rw [if_neg (fun h => hMode h.1), if_pos hMode]
    rfl

/-! ## The loop beside its connection -/

inductive BeatTask where
  /-- The link is not registered yet. -/
  | waiting
  | running
  | returned
  deriving DecidableEq

structure BeatingLink where
  conn : Connection := .spawnRelayLink
  /-- The watch has changed, or its sender is gone. -/
  stopped : Bool := false
  task : BeatTask := .waiting

inductive BeatLabel where
  /-- Whatever else happens on the connection. -/
  | mux (l : EndLabel)
  | start
  | stop
  | seeStop
  | tick

namespace BeatingLink

/-- The arm of the timer. -/
def beat (s : BeatingLink) : BeatingLink :=
  match trySendControl s.conn .heartbeat with
  | .ok conn => { s with conn }
  | .error _ => { s with task := .returned }

def step (s : BeatingLink) : BeatLabel → BeatingLink
  | .mux l => { s with conn := s.conn.next l }
  | .start => if s.task = .waiting then { s with task := .running } else s
  | .stop => { s with stopped := true }
  | .seeStop => if s.task = .running ∧ s.stopped = true then { s with task := .returned } else s
  | .tick => if s.task = .running then s.beat else s

/-- The loop has returned only if it was stopped or the connection is gone. -/
def Lasting (s : BeatingLink) : Prop :=
  s.task = .returned → s.stopped = true ∨ ¬s.conn.Live

/-- A tick of the loop does not find the queue of a live link full. -/
def FindsRoom (s : BeatingLink) (l : BeatLabel) : Prop :=
  l = .tick → s.task = .running → s.stopped = false → s.conn.Live → s.conn.queue ≠ .full

/-- A tick on a live link sends a heartbeat, and the loop goes on. -/
def Beats (s : BeatingLink) (l : BeatLabel) : Prop :=
  l = .tick → s.task = .running → s.stopped = false → s.conn.Live →
    s.step l = { s with conn := s.conn.enqueue [.heartbeat] }

structure Inv (s : BeatingLink) : Prop where
  conn : s.conn.view.Inv
  mode : s.conn.mode = .relayLink

variable {s : BeatingLink}

theorem inv_start : Inv {} := ⟨Spawned.inv (.inr rfl), rfl⟩

theorem trySendControl_heartbeat (hMode : s.conn.mode = .relayLink)
    (hQueue : s.conn.queue = .queued) :
    trySendControl s.conn .heartbeat = .ok (s.conn.enqueue [.heartbeat]) := by
  rw [trySendControl, if_neg (not_not.mpr hMode), controlViolation]
  simp only [hQueue]

/-- A heartbeat is one more control frame on the connection, or none. -/
theorem beat_conn (s : BeatingLink) :
    s.beat.conn = s.conn.next (.act (.sendControl .heartbeat)) := by
  rw [Connection.next, Connection.act, sendControl_eq, beat]
  cases trySendControl s.conn .heartbeat <;> rfl

theorem Inv.next (h : s.Inv) (l : EndLabel) :
    (s.conn.next l).view.Inv ∧ (s.conn.next l).mode = .relayLink :=
  ⟨inv_next h.conn l, (move_next s.conn l).mode_eq.trans h.mode⟩

theorem Inv.step (h : s.Inv) (l : BeatLabel) : (s.step l).Inv := by
  cases l with
  | mux l => exact ⟨(h.next l).1, (h.next l).2⟩
  | stop => exact ⟨h.conn, h.mode⟩
  | start | seeStop =>
    simp only [BeatingLink.step]
    split_ifs <;> exact ⟨h.conn, h.mode⟩
  | tick =>
    simp only [BeatingLink.step]
    split_ifs
    · constructor <;> rw [beat_conn]
      · exact (h.next _).1
      · exact (h.next _).2
    · exact h

/-- What the queue of a live link says to a tick. -/
theorem beat_of_live (h : s.Inv) (hLive : s.conn.Live) :
    s.beat = { s with conn := s.conn.enqueue [.heartbeat] } ∧ s.conn.queue = .queued ∨
      s.beat = { s with task := .returned } ∧ s.conn.queue = .full := by
  unfold beat
  cases hQueue : s.conn.queue with
  | closed => exact absurd hQueue (queue_ne_closed h.conn hLive)
  | queued => exact .inl ⟨by rw [trySendControl_heartbeat h.mode hQueue], rfl⟩
  | full =>
    refine .inr ⟨?_, rfl⟩
    simp only [trySendControl, h.mode, hQueue, controlViolation, ne_eq, not_true_eq_false,
      if_false]

theorem beat_lasting_iff (h : s.Inv) (hTask : s.task = .running) :
    s.beat.Lasting ↔ s.FindsRoom .tick := by
  have hStopped : s.beat.stopped = s.stopped := by
    unfold beat
    split <;> rfl
  unfold Lasting FindsRoom
  rw [hStopped]
  by_cases hLive : s.conn.Live
  · rcases beat_of_live h hLive with ⟨hBeat, hQueue⟩ | ⟨hBeat, hQueue⟩
    · simp [hBeat, hTask, hQueue]
    · simp [hBeat, hTask, hQueue, hLive]
  · have hGone : ¬s.beat.conn.Live := by
      rw [beat_conn]
      exact fun hAfter => hLive ((move_next s.conn _).live hAfter.1 hAfter.2)
    simp [hGone, hLive]

/-- A step keeps the loop going exactly if no tick finds the queue full. -/
theorem lasting_step_iff (h : s.Inv) (hLasting : s.Lasting) (l : BeatLabel) :
    (s.step l).Lasting ↔ s.FindsRoom l := by
  cases l with
  | tick =>
    by_cases hTask : s.task = .running
    · simp only [BeatingLink.step, if_pos hTask]
      exact beat_lasting_iff h hTask
    · simp only [BeatingLink.step, if_neg hTask]
      exact iff_of_true hLasting fun _ hRunning => absurd hRunning hTask
  | mux l =>
    refine iff_of_true (fun hReturned => (hLasting hReturned).imp id fun hGone hAfter => ?_)
      fun hTick => by cases hTick
    exact hGone ((move_next s.conn l).live hAfter.1 hAfter.2)
  | start =>
    refine iff_of_true ?_ fun hTick => by cases hTick
    simp only [BeatingLink.step]
    split_ifs with hWaiting
    · exact fun hReturned => by cases hReturned
    · exact hLasting
  | stop => exact iff_of_true (fun _ => .inl rfl) fun hTick => by cases hTick
  | seeStop =>
    refine iff_of_true ?_ fun hTick => by cases hTick
    simp only [BeatingLink.step]
    split_ifs with hStop
    · exact fun _ => .inl hStop.2
    · exact hLasting

theorem beats_iff (h : s.Inv) (l : BeatLabel) : s.Beats l ↔ s.FindsRoom l := by
  constructor
  · rintro hBeats rfl hTask hRunning hLive hFull
    have hStep := hBeats rfl hTask hRunning hLive
    rcases beat_of_live h hLive with ⟨-, hQueue⟩ | ⟨hBeat, -⟩
    · exact absurd (hQueue.symm.trans hFull) (by decide)
    · simp only [BeatingLink.step, if_pos hTask, hBeat] at hStep
      exact absurd (congrArg task hStep) (by simp [hTask])
  · rintro hRoom rfl hTask hRunning hLive
    rcases beat_of_live h hLive with ⟨hBeat, -⟩ | ⟨-, hQueue⟩
    · simp only [BeatingLink.step, if_pos hTask, hBeat]
    · exact absurd hQueue (hRoom rfl hTask hRunning hLive)

/-! ## Every run -/

/-- The loop lasts as long as its link exactly if its ticks find room in the queue, which is
also what it takes for each of them to send a heartbeat. -/
theorem heartbeats_last_iff (labels : List BeatLabel) :
    (Always step Lasting {} labels ↔ EachStep step FindsRoom {} labels) ∧
      (EachStep step Beats {} labels ↔ EachStep step FindsRoom {} labels) := by
  have hInv (s : BeatingLink) (l : BeatLabel) (h : s.Inv) : (s.step l).Inv := h.step l
  have hFresh : Lasting {} := fun hReturned => by cases hReturned
  constructor
  · exact always_iff_eachStep hInv (fun s l h hLasting => lasting_step_iff h hLasting l) labels {}
      inv_start hFresh
  · exact eachStep_iff hInv (fun s l h => beats_iff h l) labels {} inv_start

/-- A stream to another node, and so many writes of a byte each on it. -/
def bulkWrites (k : Nat) : List BeatLabel :=
  (Action.openStream (some "node") :: .sendOpen 0 :: fillCalls 0 k).map fun action =>
    .mux (.act action)

theorem run_acts (s : BeatingLink) (actions : List Action) :
    run step s (actions.map fun action => .mux (.act action)) =
      { s with conn := run act s.conn actions } := by
  induction actions generalizing s with
  | nil => rfl
  | cons action actions ih =>
    rw [List.map_cons, run_cons, ih]
    rfl

/-- The stream is announced. -/
def openedLink : Connection :=
  { spawnRelayLink with
    handles := [{ stream := { id := 1 } }]
    table := AList.insert 1 0 ∅
    nextLocalId := 3
    outbound := [.openStream 1 "node"] }

theorem run_bulkWrites (k : Nat) (hRoom : 1 + k ≤ outboundQueue) :
    run step {} (.start :: bulkWrites k) =
      { task := .running
        conn := (openedLink.setHandle 0
          { stream := Stream.debit { id := 1 } k, wrote := List.replicate k 0 }).enqueue
            (List.replicate k (.data 1 [0])) } := by
  have hOpen : run act spawnRelayLink (.openStream (some "node") :: .sendOpen 0 :: fillCalls 0 k) =
      run act openedLink (fillCalls 0 k) := rfl
  have hCredit : k ≤ ({ id := 1 } : Stream).peerCredit :=
    (Nat.le_add_left k 1).trans (hRoom.trans (by decide))
  have hFill := run_fillCalls (c := openedLink) (i := 0) (h := { stream := { id := 1 } })
    rfl rfl rfl rfl rfl rfl hRoom hCredit
  have hStart : step {} .start = { task := .running } := rfl
  rw [run_cons, hStart, bulkWrites, run_acts, hOpen, hFill]
  rfl

/-- Another stream fills the queue; the next tick ends the heartbeats of the live link. -/
theorem full_queue_ends_heartbeats :
    ¬Lasting (run step {} (.start :: bulkWrites 1023 ++ [.tick])) := by
  have hInv : Inv (run step {} (.start :: bulkWrites 1023)) :=
    run_invariant (I := Inv) (fun s l h => h.step l) _ _ inv_start
  rw [run_bulkWrites 1023 (by decide)] at hInv
  rw [run_append, run_bulkWrites 1023 (by decide), run_cons, run_nil,
    lasting_step_iff hInv fun hReturned => by cases hReturned]
  intro hRoom
  refine hRoom rfl rfl rfl ⟨rfl, by decide⟩ ?_
  rw [Connection.queue, if_neg (by decide), if_neg]
  rw [enqueue_outbound, List.length_append, List.length_replicate]
  decide

end BeatingLink

end WaitAgent.Relay
