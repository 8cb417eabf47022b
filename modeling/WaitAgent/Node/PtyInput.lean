import WaitAgent.Verified.Run

/-!
# Input on its way into a PTY

The IO loop writes what a client types to the PTY of its session.  The PTY takes as many bytes as
it has room for, so the rest waits in `pending_write` until the poller reports that the PTY can be
written to.  `append_input_to_pending_write` tries one write when nothing waits;
`drain_pending_write` takes all that waits out of the session, writes until the PTY has enough,
and puts the rest back.

Each write is a step of its own, since the loop of the drain ends only when the PTY says so.
Between two writes of it what waits is in `remaining`, behind `offset`.
-/

namespace WaitAgent.Node

open Verified

/-- What one write to the PTY answers. -/
inductive PtyWrite where
  /-- The PTY takes this many bytes, or all of them if there are fewer. -/
  | accepts (n : Nat)
  | wouldBlock
  | failed
  deriving DecidableEq, Repr

inductive InputLabel where
  /-- A `WriteInput` for the session enters the channel of the loop. -/
  | request (bytes : List UInt8)
  /-- `drain_requests` takes the next one, with the answer to the write it may try at once. -/
  | takeRequest (direct : PtyWrite)
  /-- The poller reports the PTY writable. -/
  | writable
  /-- The next write of the running drain. -/
  | write (answer : PtyWrite)
  deriving DecidableEq, Repr

structure PtyInput where
  requests : List (List UInt8) := []
  pendingWrite : List UInt8 := []
  /-- `remaining` and `offset` of the drain that is running. -/
  draining : Option (List UInt8 × Nat) := none
  /-- The poller watches for writability besides readability. -/
  watchesWritable : Bool := false
  accepted : List UInt8 := []
  /-- The requests that were taken out of the channel, oldest first. -/
  taken : List (List UInt8) := []
  deriving DecidableEq, Repr

namespace PtyInput

variable {s : PtyInput}

/-! ## The session's side -/

/-- `write_to_pty`, where the PTY takes `n` bytes. -/
def writeToPty (s : PtyInput) (bytes : List UInt8) (n : Nat) : PtyInput :=
  { s with accepted := s.accepted ++ bytes.take n }

def appendInputToPendingWrite (s : PtyInput) (bytes : List UInt8) (direct : PtyWrite) : PtyInput :=
  if s.pendingWrite.isEmpty then
    match direct with
    | .accepts n =>
        if bytes.length ≤ n then s.writeToPty bytes n
        else { s.writeToPty bytes n with pendingWrite := s.pendingWrite ++ bytes.drop n }
    | .wouldBlock => { s with pendingWrite := s.pendingWrite ++ bytes }
    | .failed => s
  else { s with pendingWrite := s.pendingWrite ++ bytes }

/-- After the loop: what was not written goes back, and the poller's mode follows it. -/
def finishDrain (s : PtyInput) (remaining : List UInt8) (offset : Nat) : PtyInput :=
  { s with
    pendingWrite := remaining.drop offset
    draining := none
    watchesWritable := !(remaining.drop offset).isEmpty }

/-- The head of the loop. -/
def continueDrain (s : PtyInput) (remaining : List UInt8) (offset : Nat) : PtyInput :=
  if offset < remaining.length then { s with draining := some (remaining, offset) }
  else s.finishDrain remaining offset

def drainPendingWrite (s : PtyInput) : PtyInput :=
  if s.pendingWrite.isEmpty then { s with watchesWritable := false }
  else { s with pendingWrite := [] }.continueDrain s.pendingWrite 0

/-- One turn of the loop. -/
def drainWrite (s : PtyInput) (remaining : List UInt8) (offset : Nat) : PtyWrite → PtyInput
  | .accepts n =>
      let rest := remaining.drop offset
      (s.writeToPty rest n).continueDrain remaining (offset + min n rest.length)
  | .wouldBlock => s.finishDrain remaining offset
  | .failed => { s with draining := none, watchesWritable := false }

/-- `drain_requests` at a `WriteInput`, with the requests behind it. -/
def handleWriteInput (s : PtyInput) (bytes : List UInt8) (requests : List (List UInt8))
    (direct : PtyWrite) : PtyInput :=
  ({ s with requests, taken := s.taken ++ [bytes] }.appendInputToPendingWrite
    bytes direct).drainPendingWrite

def step (s : PtyInput) : InputLabel → PtyInput
  | .request bytes => { s with requests := s.requests ++ [bytes] }
  | .takeRequest direct =>
      match s.draining, s.requests with
      | none, bytes :: requests => s.handleWriteInput bytes requests direct
      | _, _ => s
  | .writable =>
      match s.draining with
      | none => s.drainPendingWrite
      | some _ => s
  | .write answer =>
      match s.draining with
      | none => s
      | some (remaining, offset) => s.drainWrite remaining offset answer

/-! ## First in, first out -/

/-- What waits for the PTY, in the session or in the running drain. -/
def waiting (s : PtyInput) : List UInt8 :=
  match s.draining with
  | none => s.pendingWrite
  | some (remaining, offset) => remaining.drop offset

/-- What the PTY took and what waits is what was asked for; what waits in the session is watched. -/
structure Fifo (s : PtyInput) : Prop where
  bytes : s.accepted ++ s.waiting = s.taken.flatten
  watched : s.draining = none → s.pendingWrite ≠ [] → s.watchesWritable = true

def InputLabel.NoError : InputLabel → Prop
  | .takeRequest direct => direct ≠ .failed
  | .write answer => answer ≠ .failed
  | _ => True

theorem fifo_finishDrain {remaining : List UInt8} {offset : Nat}
    (h : s.accepted ++ remaining.drop offset = s.taken.flatten) :
    (s.finishDrain remaining offset).Fifo where
  bytes := h
  watched := by
    intro _ hSome
    simpa [finishDrain] using hSome

theorem fifo_continueDrain {remaining : List UInt8} {offset : Nat}
    (h : s.accepted ++ remaining.drop offset = s.taken.flatten) :
    (s.continueDrain remaining offset).Fifo := by
  unfold continueDrain
  split_ifs
  · exact ⟨h, fun hNone => by cases hNone⟩
  · exact fifo_finishDrain h

/-- The mode may be out of date before a drain, and is not after it. -/
theorem fifo_drainPendingWrite (hIdle : s.draining = none)
    (h : s.accepted ++ s.pendingWrite = s.taken.flatten) : s.drainPendingWrite.Fifo := by
  unfold drainPendingWrite
  split_ifs with hEmpty
  · refine ⟨?_, fun _ hSome => absurd (List.isEmpty_iff.mp hEmpty) hSome⟩
    simpa only [waiting, hIdle] using h
  · exact fifo_continueDrain h

theorem appendInputToPendingWrite_bytes (s : PtyInput) (bytes : List UInt8) {direct : PtyWrite}
    (hDirect : direct ≠ .failed) :
    (s.appendInputToPendingWrite bytes direct).accepted ++
      (s.appendInputToPendingWrite bytes direct).pendingWrite =
        s.accepted ++ s.pendingWrite ++ bytes := by
  unfold appendInputToPendingWrite
  split_ifs with hEmpty
  · have hNone : s.pendingWrite = [] := List.isEmpty_iff.mp hEmpty
    cases direct with
    | accepts n =>
      dsimp only
      split_ifs with hAll
      · simp [writeToPty, hNone, List.take_of_length_le hAll]
      · simp [writeToPty, hNone]
    | wouldBlock => simp
    | failed => exact absurd rfl hDirect
  · simp

theorem appendInputToPendingWrite_frame (s : PtyInput) (bytes : List UInt8) (direct : PtyWrite) :
    (s.appendInputToPendingWrite bytes direct).draining = s.draining ∧
      (s.appendInputToPendingWrite bytes direct).taken = s.taken ∧
      (s.appendInputToPendingWrite bytes direct).requests = s.requests := by
  unfold appendInputToPendingWrite
  split_ifs
  · cases direct with
    | accepts n => dsimp only; split_ifs <;> exact ⟨rfl, rfl, rfl⟩
    | wouldBlock => exact ⟨rfl, rfl, rfl⟩
    | failed => exact ⟨rfl, rfl, rfl⟩
  · exact ⟨rfl, rfl, rfl⟩

theorem fifo_handleWriteInput (hIdle : s.draining = none)
    (h : s.accepted ++ s.pendingWrite = s.taken.flatten) (bytes : List UInt8)
    (requests : List (List UInt8)) {direct : PtyWrite} (hDirect : direct ≠ .failed) :
    (s.handleWriteInput bytes requests direct).Fifo := by
  obtain ⟨hDraining, hTaken, -⟩ := appendInputToPendingWrite_frame
    { s with requests, taken := s.taken ++ [bytes] } bytes direct
  refine fifo_drainPendingWrite (hDraining.trans hIdle) ?_
  rw [appendInputToPendingWrite_bytes _ _ hDirect, hTaken]
  simp [← h]

theorem fifo_drainWrite {remaining : List UInt8} {offset : Nat} {answer : PtyWrite}
    (h : s.accepted ++ remaining.drop offset = s.taken.flatten) (hAnswer : answer ≠ .failed) :
    (s.drainWrite remaining offset answer).Fifo := by
  cases answer with
  | accepts n =>
    refine fifo_continueDrain ?_
    -- what the PTY took is what the offset moved over
    have hTake : (remaining.drop offset).take n =
        (remaining.drop offset).take (min n (remaining.drop offset).length) := by
      rw [← List.take_eq_take_min]
    show s.accepted ++ (remaining.drop offset).take n ++ _ = s.taken.flatten
    rw [hTake, ← List.drop_drop, List.append_assoc, List.take_append_drop]
    exact h
  | wouldBlock => exact fifo_finishDrain h
  | failed => exact absurd rfl hAnswer

theorem fifo_step (h : s.Fifo) {l : InputLabel} (hError : InputLabel.NoError l) :
    (s.step l).Fifo := by
  have hBytes := h.bytes
  cases l with
  | request bytes => exact ⟨h.bytes, h.watched⟩
  | takeRequest direct =>
    cases hIdle : s.draining with
    | some _ => simpa only [step, hIdle] using h
    | none =>
      cases hNext : s.requests with
      | nil => simpa only [step, hIdle, hNext] using h
      | cons bytes requests =>
        simp only [waiting, hIdle] at hBytes
        simp only [step, hIdle, hNext]
        exact fifo_handleWriteInput hIdle hBytes bytes requests hError
  | writable =>
    cases hIdle : s.draining with
    | some _ => simpa only [step, hIdle] using h
    | none =>
      simp only [waiting, hIdle] at hBytes
      simp only [step, hIdle]
      exact fifo_drainPendingWrite hIdle hBytes
  | write answer =>
    cases hDrain : s.draining with
    | none => simpa only [step, hDrain] using h
    | some drain =>
      simp only [waiting, hDrain] at hBytes
      simp only [step, hDrain]
      exact fifo_drainWrite hBytes hError

/-! ## The channel -/

def InputLabel.payload : InputLabel → Option (List UInt8)
  | .request bytes => some bytes
  | _ => none

theorem drainPendingWrite_channel (s : PtyInput) :
    s.drainPendingWrite.taken = s.taken ∧ s.drainPendingWrite.requests = s.requests := by
  unfold drainPendingWrite continueDrain finishDrain
  split_ifs <;> exact ⟨rfl, rfl⟩

theorem drainWrite_channel (s : PtyInput) (remaining : List UInt8) (offset : Nat)
    (answer : PtyWrite) :
    (s.drainWrite remaining offset answer).taken = s.taken ∧
      (s.drainWrite remaining offset answer).requests = s.requests := by
  cases answer with
  | accepts n =>
    dsimp only [drainWrite, continueDrain, finishDrain]
    split_ifs <;> exact ⟨rfl, rfl⟩
  | wouldBlock => exact ⟨rfl, rfl⟩
  | failed => exact ⟨rfl, rfl⟩

theorem handleWriteInput_channel (s : PtyInput) (bytes : List UInt8)
    (requests : List (List UInt8)) (direct : PtyWrite) :
    (s.handleWriteInput bytes requests direct).taken = s.taken ++ [bytes] ∧
      (s.handleWriteInput bytes requests direct).requests = requests := by
  obtain ⟨-, hTaken, hRequests⟩ := appendInputToPendingWrite_frame
    { s with requests, taken := s.taken ++ [bytes] } bytes direct
  unfold handleWriteInput
  rw [(drainPendingWrite_channel _).1, (drainPendingWrite_channel _).2]
  exact ⟨hTaken, hRequests⟩

/-- Requests leave the channel in the order in which they entered it. -/
theorem taken_requests_step (s : PtyInput) (l : InputLabel) :
    (s.step l).taken ++ (s.step l).requests =
      s.taken ++ s.requests ++ (InputLabel.payload l).toList := by
  cases l with
  | request bytes => simp [step, InputLabel.payload]
  | takeRequest direct =>
    simp only [InputLabel.payload, Option.toList_none, List.append_nil]
    cases hIdle : s.draining with
    | some _ => simp only [step, hIdle]
    | none =>
      cases hNext : s.requests with
      | nil => simp only [step, hIdle, hNext]
      | cons bytes requests =>
        simp only [step, hIdle, hNext]
        rw [(handleWriteInput_channel s _ _ _).1, (handleWriteInput_channel s _ _ _).2]
        simp
  | writable =>
    simp only [InputLabel.payload, Option.toList_none, List.append_nil]
    cases hIdle : s.draining with
    | some _ => simp only [step, hIdle]
    | none =>
      simp only [step, hIdle]
      rw [(drainPendingWrite_channel s).1, (drainPendingWrite_channel s).2]
  | write answer =>
    simp only [InputLabel.payload, Option.toList_none, List.append_nil]
    cases hDrain : s.draining with
    | none => simp only [step, hDrain]
    | some drain =>
      simp only [step, hDrain]
      rw [(drainWrite_channel s _ _ _).1, (drainWrite_channel s _ _ _).2]

theorem taken_requests_run (labels : List InputLabel) :
    ∀ s : PtyInput, (run step s labels).taken ++ (run step s labels).requests =
      s.taken ++ s.requests ++ labels.filterMap InputLabel.payload := by
  induction labels with
  | nil => simp
  | cons l labels ih =>
    intro s
    rw [run_cons, ih, taken_requests_step, List.append_assoc]
    cases hPayload : InputLabel.payload l with
    | none => simp [List.filterMap_cons_none hPayload]
    | some bytes => simp [List.filterMap_cons_some hPayload]

/-! ## Every run -/

/-- Input reaches the PTY first in, first out.  At every moment the bytes the PTY accepted and the
bytes that wait are the payloads handled so far, in order; the handled requests are those that
were made, but for the ones still in the channel; outside a drain the waiting bytes are
`pending_write`; and the PTY is watched when there are any. -/
theorem pty_input_is_fifo (labels : List InputLabel)
    (hError : ∀ l ∈ labels, InputLabel.NoError l) :
    let s := run step {} labels
    s.taken ++ s.requests = labels.filterMap InputLabel.payload ∧
      s.accepted ++ s.waiting = s.taken.flatten ∧
      (s.draining = none → s.accepted ++ s.pendingWrite = s.taken.flatten ∧
        (s.pendingWrite ≠ [] → s.watchesWritable = true)) := by
  intro s
  have hFifo : s.Fifo := by
    refine run_invariant_mem (I := Fifo) labels
      (fun t l hMem h => fifo_step h (hError l hMem)) {} ?_
    exact ⟨rfl, fun _ hSome => absurd rfl hSome⟩
  refine ⟨?_, hFifo.bytes, fun hIdle => ⟨?_, hFifo.watched hIdle⟩⟩
  · simpa using taken_requests_run labels {}
  · simpa only [waiting, hIdle] using hFifo.bytes

/-- Two requests; the PTY takes two bytes at once, then one, and then blocks for a while. -/
def shortWrites : List InputLabel :=
  [.request [1, 2, 3], .takeRequest (.accepts 2), .write .wouldBlock, .request [4, 5],
    .takeRequest (.accepts 9), .write (.accepts 1), .write .wouldBlock]

theorem short_writes_in_order :
    (run step {} shortWrites).accepted = [1, 2, 3] ∧
      (run step {} shortWrites).pendingWrite = [4, 5] ∧
      (run step {} shortWrites).watchesWritable = true := by
  have hError : ∀ l ∈ shortWrites, InputLabel.NoError l := by
    simp [shortWrites, InputLabel.NoError]
  have hFifo := (pty_input_is_fifo shortWrites hError).2.2 (by decide +kernel)
  have hPending : (run step {} shortWrites).pendingWrite = [4, 5] := by decide +kernel
  exact ⟨by decide +kernel, hPending, hFifo.2 (by rw [hPending]; decide)⟩

end PtyInput

end WaitAgent.Node
