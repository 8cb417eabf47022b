import WaitAgent.Mux.Endpoint

/-!
# Writers that wait

A write or a shutdown that finds the outbound queue full stores its waker in the one slot of
the connection, and the writer task empties the slot when it has sent a frame.  Looking at
the queue and storing the waker are two steps, as are taking a frame and calling the waker.

A call is known by its stream, and a waker by its task.
-/

namespace WaitAgent.Mux

open Verified

/-- The step of the call is a `try_send` that parks when the queue is full. -/
def Call.triesQueue : Call → CallStep → Bool
  | .sending _, .send | .closing, .sendClose => true
  | _, _ => false

/-- The owner of the stream comes back to write, to shut down, or to give it away. -/
def CallStep.comesBack : CallStep → Bool
  | .write _ | .shutdown | .drop => true
  | _ => false

namespace Connection

/-- The call on stream `i` finds the queue full. -/
def findsFull (c : Connection) (i : Nat) : EndLabel → Bool
  | .act (.call j step) =>
      i = j && c.queue = .full && c.handles[i]?.any fun h => h.call.triesQueue step
  | _ => false

/-- Stream `i` has a new call. -/
def repolls (c : Connection) (i : Nat) : EndLabel → Bool
  | .act (.call j step) => i = j && step.comesBack && c.handles[i]?.any fun h => h.call = .idle
  | _ => false

/-- The writer task takes a frame out of the queue. -/
def takesFrame (c : Connection) : EndLabel → Bool
  | .write => c.write.isSome
  | _ => false

end Connection

/-- A connection with the tasks that wait for its outbound queue. -/
structure Outbox where
  conn : Connection
  /-- The task whose waker is in `outbound_waker`. -/
  slot : Option Nat := none
  /-- The call on stream `i` has found the queue full, and has yet to store its waker. -/
  parking : Nat → Bool := fun _ => false
  /-- The task that waits for the queue with stream `i`, and has not been woken. -/
  parked : Nat → Option Nat := fun _ => none
  /-- The writer task has taken a frame, and has yet to call the waker. -/
  waking : Bool := false

inductive OutboxLabel where
  | step (label : EndLabel)
  /-- `park_outbound`, on behalf of `task`, and the call returns `Pending`. -/
  | park (i task : Nat)
  /-- `wake_outbound`. -/
  | wake

namespace Outbox

/-- The one who would take this step is busy with another. -/
def busy (b : Outbox) : EndLabel → Bool
  | .act (.call i _) => b.parking i
  | .write | .act .stopWriter => b.waking
  | _ => false

@[simps]
def advance (b : Outbox) (l : EndLabel) : Outbox where
  conn := b.conn.next l
  slot := b.slot
  parking i := b.parking i || b.conn.findsFull i l
  parked i := if b.conn.repolls i l then none else b.parked i
  waking := b.waking || b.conn.takesFrame l

def step (b : Outbox) : OutboxLabel → Outbox
  | .step l => if b.busy l then b else b.advance l
  | .park i task =>
      if b.parking i then
        { b with
          slot := some task
          parking := Function.update b.parking i false
          parked := Function.update b.parked i (some task) }
      else b
  | .wake =>
      if b.waking && !b.conn.outboundClosed then
        { b with
          slot := none
          parked := fun i => if b.parked i = b.slot then none else b.parked i
          waking := false }
      else b

/-- Whoever waits for a queue with room will be woken. -/
def NoneLost (b : Outbox) : Prop :=
  ∀ i task, b.parked i = some task → b.conn.outbound.length < outboundQueue →
    b.slot = some task

/-- Whoever waits has its waker in the slot. -/
def Stored (b : Outbox) : Prop :=
  ∀ i task, b.parked i = some task → b.slot = some task

/-- A waker is stored over that of another task that waits with another stream. -/
def overwrites (b : Outbox) : OutboxLabel → Bool
  | .park i task =>
      b.parking i && b.slot ≠ some task && (List.range b.conn.handles.length).any fun j =>
        j ≠ i && (b.parked j).isSome && b.parked j = b.slot
  | _ => false

/-- Only a call on a stream parks. -/
structure Inv (b : Outbox) : Prop where
  parking : ∀ i, b.parking i = true → i < b.conn.handles.length
  parked : ∀ i task, b.parked i = some task → i < b.conn.handles.length

variable {b : Outbox}

theorem parked_advance {l : EndLabel} {i task : Nat}
    (hParked : (b.advance l).parked i = some task) :
    b.parked i = some task := by
  rw [advance_parked] at hParked
  split_ifs at hParked
  exact hParked

theorem findsFull_lt {c : Connection} {l : EndLabel} {i : Nat} (hFull : c.findsFull i l = true) :
    i < c.handles.length := by
  unfold Connection.findsFull at hFull
  split at hFull
  · rw [Bool.and_eq_true, Option.any_eq_true] at hFull
    obtain ⟨-, h, hGet, -⟩ := hFull
    exact (List.getElem?_eq_some_iff.mp hGet).1
  · cases hFull

theorem inv_step (hInv : b.Inv) (l : OutboxLabel) : (b.step l).Inv := by
  cases l with
  | step l =>
    simp only [step]
    split_ifs
    · exact hInv
    · have hGrows : b.conn.handles.length ≤ (b.conn.next l).handles.length :=
        (Connection.move_next b.conn l).length_le
      constructor
      · intro i hParking
        rw [advance_parking, Bool.or_eq_true] at hParking
        refine lt_of_lt_of_le ?_ hGrows
        exact hParking.elim (hInv.parking i) findsFull_lt
      · intro i task hParked
        exact lt_of_lt_of_le (hInv.parked i task (parked_advance hParked)) hGrows
  | park i task =>
    simp only [step]
    split_ifs with hParking
    · constructor
      · intro j hOther
        by_cases hEq : j = i
        · exact hEq ▸ hInv.parking i hParking
        · exact hInv.parking j (by simpa [hEq] using hOther)
      · intro j other hOther
        by_cases hEq : j = i
        · exact hEq ▸ hInv.parking i hParking
        · exact hInv.parked j other (by simpa [hEq] using hOther)
    · exact hInv
  | wake =>
    simp only [step]
    split_ifs
    · refine ⟨hInv.parking, fun i task hParked => hInv.parked i task ?_⟩
      dsimp only at hParked
      split_ifs at hParked
      exact hParked
    · exact hInv

theorem overwrites_park {i task : Nat} (hParking : b.parking i = true) :
    b.overwrites (.park i task) = true ↔ b.slot ≠ some task ∧
      ∃ j other, j < b.conn.handles.length ∧ j ≠ i ∧ b.parked j = some other ∧
        b.slot = some other := by
  simp only [overwrites, hParking, Bool.true_and, Bool.and_eq_true, decide_eq_true_eq,
    List.any_eq_true, List.mem_range, Option.isSome_iff_exists]
  refine and_congr_right fun _ => exists_congr fun j => ?_
  constructor
  · rintro ⟨hLt, ⟨hNe, other, hOther⟩, hSlot⟩
    exact ⟨other, hLt, hNe, hOther, hSlot ▸ hOther⟩
  · rintro ⟨other, hLt, hNe, hOther, hSlot⟩
    exact ⟨hLt, ⟨hNe, other, hOther⟩, hOther.trans hSlot.symm⟩

theorem stored_step (hInv : b.Inv) (hStored : b.Stored) {l : OutboxLabel} :
    (b.step l).Stored ↔ b.overwrites l = false := by
  cases l with
  | step l =>
    refine iff_of_true ?_ rfl
    simp only [step]
    split_ifs
    · exact hStored
    · exact fun i task hParked => hStored i task (parked_advance hParked)
  | park i task =>
    by_cases hParking : b.parking i = true
    · rw [← Bool.not_eq_true, overwrites_park hParking]
      simp only [step, hParking, if_true]
      constructor
      · rintro hNext ⟨hSlot, j, other, -, hNe, hOther, hStill⟩
        have hSame := hNext j other (by simpa [hNe] using hOther)
        exact hSlot (hStill.trans hSame.symm)
      · intro hKeeps j other hOther
        by_cases hEq : j = i
        · subst hEq
          simpa using hOther
        · have hWaits : b.parked j = some other := by simpa [hEq] using hOther
          have hHolds := hStored j other hWaits
          by_contra hNot
          refine hKeeps ⟨fun hSame => hNot (hSame ▸ hHolds), j, other, ?_, hEq, hWaits, hHolds⟩
          exact hInv.parked j other hWaits
    · refine iff_of_true ?_ (by simp [overwrites, hParking])
      simp only [step, hParking]
      exact hStored
  | wake =>
    refine iff_of_true ?_ rfl
    simp only [step]
    split_ifs
    · intro i task hParked
      dsimp only at hParked
      split_ifs at hParked with hOwn
      exact absurd (hParked.trans (hStored i task hParked).symm) hOwn
    · exact hStored

theorem Stored.noneLost (hStored : b.Stored) : b.NoneLost :=
  fun i task hParked _ => hStored i task hParked

/-- The wakers of all who wait are in the slot exactly as long as none is overwritten, and
then no wake-up is lost. -/
theorem parked_writers_wake (c : Connection) (labels : List OutboxLabel) :
    (Always step Stored { conn := c } labels ↔
      EachStep step (fun b l => b.overwrites l = false) { conn := c } labels) ∧
    (EachStep step (fun b l => b.overwrites l = false) { conn := c } labels →
      Always step NoneLost { conn := c } labels) := by
  have hInv : ({ conn := c } : Outbox).Inv := ⟨by simp, by simp⟩
  have hStored : ({ conn := c } : Outbox).Stored := by simp [Stored]
  constructor
  · exact always_iff_eachStep (I := Inv) (fun _ l hInv => inv_step hInv l)
      (fun _ _ hInv hStored => stored_step hInv hStored) labels _ hInv hStored
  · intro hLabels
    exact Always.of_eachStep (I := fun b => b.Inv ∧ b.Stored)
      (fun _ l hBoth hKeeps => ⟨inv_step hBoth.1 l, (stored_step hBoth.1 hBoth.2).mpr hKeeps⟩)
      (fun _ hBoth => hBoth.2.noneLost) labels _ hLabels ⟨hInv, hStored⟩

/-! ### Two streams and a full queue -/

def beats (n : Nat) : List OutboxLabel :=
  List.replicate n (.step (.act (.sendControl .heartbeat)))

theorem step_beat (hMode : b.conn.mode = .relayLink) (hQueue : b.conn.queue = .queued) :
    b.step (.step (.act (.sendControl .heartbeat))) =
      { b with conn := b.conn.enqueue [.heartbeat] } := by
  have hNext : b.conn.next (.act (.sendControl .heartbeat)) = b.conn.enqueue [.heartbeat] := by
    simp [Connection.next, Connection.act, Connection.sendControl, hMode, hQueue,
      Connection.mayControl]
  simp [step, busy, advance, hNext, Connection.findsFull, Connection.repolls,
    Connection.takesFrame]

/-- Heartbeats fill the queue. -/
theorem run_beats {n : Nat} (hMode : b.conn.mode = .relayLink)
    (hOpen : b.conn.outboundClosed = false) (hRoom : b.conn.outbound.length + n ≤ outboundQueue) :
    run step b (beats n) =
      { b with conn := b.conn.enqueue (List.replicate n .heartbeat) } := by
  induction n generalizing b with
  | zero => rw [beats, List.replicate_zero, run_nil, List.replicate_zero, Connection.enqueue_nil]
  | succ n ih =>
    have hQueue : b.conn.queue = .queued := by
      rw [Connection.queue, hOpen, if_neg (by decide), if_pos (by omega)]
    have hRest := ih (b := { b with conn := b.conn.enqueue [.heartbeat] }) hMode hOpen (by
      rw [Connection.enqueue_outbound, List.length_append, List.length_singleton]
      omega)
    rw [beats, List.replicate_succ, run_cons, step_beat hMode hQueue, ← beats, hRest,
      Connection.enqueue_enqueue]
    rfl

def openTwo : List OutboxLabel :=
  [.step (.act (.openStream (some "node"))), .step (.act (.sendOpen 0)),
    .step (.act (.openStream (some "node"))), .step (.act (.sendOpen 1))]

/-- `poll_write` on stream `i` by `task`, when the queue is full. -/
def writeFull (i task : Nat) : List OutboxLabel :=
  [.step (.act (.call i (.write [0]))), .step (.act (.call i .plan)),
    .step (.act (.call i .send)), .park i task]

/-- The writer task sends a frame. -/
def drainOne : List OutboxLabel :=
  [.step .write, .wake]

theorem run_openTwo_beats : run step { conn := .spawnRelayLink } (openTwo ++ beats 1022) =
    { run step { conn := .spawnRelayLink } openTwo with
      conn := (run step { conn := .spawnRelayLink } openTwo).conn.enqueue
        (List.replicate 1022 .heartbeat) } := by
  rw [run_append]
  exact run_beats (by decide) (by decide) (by decide)

/-- One task waits, and is woken. -/
theorem one_writer_wakes :
    Always step NoneLost { conn := .spawnRelayLink }
      (openTwo ++ beats 1022 ++ (writeFull 0 7 ++ drainOne)) := by
  apply (parked_writers_wake .spawnRelayLink _).2
  rw [eachStep_append, run_openTwo_beats]
  refine ⟨EachStep.of_forall _ _ fun l hMem b => ?_, by decide +kernel⟩
  rcases List.mem_append.mp hMem with hOpens | hBeats
  · simp only [openTwo, List.mem_cons, List.not_mem_nil, or_false] at hOpens
    rcases hOpens with rfl | rfl | rfl | rfl <;> rfl
  · rw [List.eq_of_mem_replicate hBeats]
    rfl

/-- The second task takes the place of the first, which nobody wakes any more. -/
theorem first_writer_lost :
    ¬ (run step { conn := .spawnRelayLink }
      (openTwo ++ beats 1022 ++ (writeFull 0 7 ++ writeFull 1 8 ++ drainOne))).NoneLost := by
  rw [run_append, run_openTwo_beats]
  intro hNone
  have hSlot := hNone 0 7 (by decide +kernel) (by decide +kernel)
  revert hSlot
  decide +kernel

end Outbox

end WaitAgent.Mux
