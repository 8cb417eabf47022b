import WaitAgent.Verified.Run

/-!
# The heartbeat of a node session

Both ends of a node session run the same loop: it waits for whatever comes
first, the next tick of the heartbeat, a message of the peer, or the end of a
timeout on that message.  The timeout is made anew each time around the loop, so
every branch that is taken moves its deadline.

Time is counted in seconds.  It passes only while no timer is due, so that each
timer is served at the second at which it fires.
-/

namespace WaitAgent.Remote

open Verified

def heartbeatInterval : Nat := 15

def heartbeatTimeout : Nat := 45

/-- Which end of the session runs the loop: `open_node_session` or
`connect_outbound`. -/
inductive NodeSessionSide where
  | accepted
  | dialed
  deriving DecidableEq, Repr

/-- Why the loop ended. -/
inductive ReaderExit where
  | shutdown
  /-- the heartbeat could not be sent -/
  | sendFailed
  /-- the ingress no longer takes events -/
  | receiverGone
  | streamClosed
  | streamFailed
  | heartbeatTimeout
  deriving DecidableEq, Repr

structure SessionReader where
  side : NodeSessionSide
  now : Nat
  nextTick : Nat
  deadline : Nat
  /-- the ticks that were handled since the last message -/
  quietTicks : Nat := 0
  exit : Option ReaderExit := none
  deriving DecidableEq, Repr

namespace SessionReader

def start (side : NodeSessionSide) (now : Nat) : SessionReader where
  side := side
  now := now
  nextTick := now + heartbeatInterval
  deadline := now + heartbeatTimeout

inductive Label where
  /-- a second passes -/
  | elapse
  | tick (sent : Bool)
  | received (delivered : Bool)
  | streamClosed
  | streamFailed
  | timedOut
  | shutdown
  deriving DecidableEq, Repr

/-- Around the loop once more: the timeout starts again. -/
def rearm (r : SessionReader) : SessionReader :=
  { r with deadline := r.now + heartbeatTimeout }

def leave (r : SessionReader) (exit : ReaderExit) : SessionReader :=
  { r with exit := some exit }

/-- The heartbeat was sent. -/
def beat (r : SessionReader) : SessionReader :=
  { r with
    nextTick := r.nextTick + heartbeatInterval
    quietTicks := r.quietTicks + 1 }.rearm

/-- A message was passed on. -/
def hear (r : SessionReader) : SessionReader :=
  { r with quietTicks := 0 }.rearm

/-- One branch of a loop that still waits. -/
def branch (r : SessionReader) : Label → SessionReader
  | .elapse =>
      if r.now < r.nextTick ∧ r.now < r.deadline then { r with now := r.now + 1 } else r
  | .tick sent =>
      if r.nextTick ≤ r.now then
        if sent then r.beat else r.leave .sendFailed
      else r
  | .received delivered => if delivered then r.hear else r.leave .receiverGone
  | .streamClosed => r.leave .streamClosed
  | .streamFailed => r.leave .streamFailed
  | .timedOut => if r.deadline ≤ r.now then r.leave .heartbeatTimeout else r
  | .shutdown =>
      match r.side with
      | .dialed => r.leave .shutdown
      -- the reader of an accepted session listens to no shutdown
      | .accepted => r

def step (r : SessionReader) (label : Label) : SessionReader :=
  match r.exit with
  | some _ => r
  | none => r.branch label

/-! ## Silent peers -/

/-- A loop that still waits has not handled more ticks without a message than
fit into the timeout. -/
def BoundedQuiet (r : SessionReader) : Prop :=
  r.exit = none → r.quietTicks ≤ heartbeatTimeout / heartbeatInterval + 1

/-- A step in which nothing comes from the peer and nothing fails. -/
def Silent (r : SessionReader) : Label → Prop
  | .elapse => True
  | .tick sent => sent = true ∨ r.now < r.nextTick
  | .received _ => False
  | .streamClosed => False
  | .streamFailed => False
  | .timedOut => True
  | .shutdown => r.side = .accepted

/-- What holds whenever the loop waits. -/
structure Waits (r : SessionReader) : Prop where
  tick : r.now ≤ r.nextTick
  near : r.nextTick ≤ r.now + heartbeatInterval
  /-- the tick comes before the deadline -/
  deadline : r.nextTick < r.deadline

theorem waits_start (side : NodeSessionSide) (now : Nat) : (start side now).Waits := by
  constructor <;> simp only [start, heartbeatInterval, heartbeatTimeout] <;> omega

theorem Waits.beat {r : SessionReader} (h : r.Waits) (hDue : r.nextTick ≤ r.now) :
    r.beat.Waits := by
  obtain ⟨hTick, hNear, hDeadline⟩ := h
  constructor <;>
    simp only [SessionReader.beat, rearm, heartbeatInterval, heartbeatTimeout] <;>
    omega

theorem Waits.hear {r : SessionReader} (h : r.Waits) : r.hear.Waits := by
  obtain ⟨hTick, hNear, hDeadline⟩ := h
  constructor <;>
    simp only [SessionReader.hear, rearm, heartbeatInterval, heartbeatTimeout] at hNear ⊢ <;>
    omega

/-- A branch that goes on leaves the deadline behind the next tick. -/
theorem Waits.branch {r : SessionReader} (h : r.Waits) (label : Label)
    (hExit : (r.branch label).exit = none) : (r.branch label).Waits := by
  cases label with
  | elapse =>
    simp only [SessionReader.branch]
    split
    · next hEarly => exact ⟨hEarly.1, Nat.le_succ_of_le h.near, h.deadline⟩
    · exact h
  | tick sent =>
    by_cases hDue : r.nextTick ≤ r.now
    · cases sent with
      | false => simp [SessionReader.branch, hDue, leave] at hExit
      | true =>
        simp only [SessionReader.branch, if_pos hDue, if_true]
        exact h.beat hDue
    · simp only [SessionReader.branch, if_neg hDue]
      exact h
  | received delivered =>
    cases delivered with
    | false => simp [SessionReader.branch, leave] at hExit
    | true => exact h.hear
  | streamClosed => cases hExit
  | streamFailed => cases hExit
  | timedOut =>
    have hEarly : ¬ r.deadline ≤ r.now := by
      have := h.tick
      have := h.deadline
      omega
    simp only [SessionReader.branch, if_neg hEarly]
    exact h
  | shutdown =>
    simp only [SessionReader.branch] at hExit ⊢
    split at hExit
    · cases hExit
    · exact h

/-- A loop that has not ended waits, and none has ended by the timeout. -/
structure Inv (r : SessionReader) : Prop where
  waits : r.exit = none → r.Waits
  noTimeout : r.exit ≠ some .heartbeatTimeout

theorem inv_start (side : NodeSessionSide) (now : Nat) : (start side now).Inv :=
  ⟨fun _ => waits_start side now, nofun⟩

/-- The deadline of a loop that waits is not reached. -/
theorem Waits.exit_branch {r : SessionReader} (h : r.Waits) (hExit : r.exit = none)
    (label : Label) : (r.branch label).exit ≠ some .heartbeatTimeout := by
  cases label with
  | elapse =>
    simp only [SessionReader.branch]
    split <;> simp [hExit]
  | tick sent =>
    simp only [SessionReader.branch]
    split
    · cases sent <;> simp [leave, SessionReader.beat, rearm, hExit]
    · simp [hExit]
  | received delivered =>
    cases delivered <;> simp [SessionReader.branch, leave, SessionReader.hear, rearm, hExit]
  | streamClosed => simp [SessionReader.branch, leave]
  | streamFailed => simp [SessionReader.branch, leave]
  | timedOut =>
    have hEarly : ¬ r.deadline ≤ r.now := by
      have := h.tick
      have := h.deadline
      omega
    simp [SessionReader.branch, hEarly, hExit]
  | shutdown =>
    simp only [SessionReader.branch]
    split <;> simp [leave, hExit]

theorem Inv.step {r : SessionReader} (h : r.Inv) (label : Label) : (r.step label).Inv := by
  unfold SessionReader.step
  split
  · exact h
  · next hExit =>
    have hWaits := h.waits hExit
    exact ⟨hWaits.branch label, hWaits.exit_branch hExit label⟩

section

variable {r : SessionReader} {label : Label}

/-- The loop waits, and has handled as many ticks since `r` as the timer moved. -/
structure KeptSince (r r' : SessionReader) : Prop where
  exit : r'.exit = none
  ticks : r'.nextTick + r.quietTicks * heartbeatInterval =
    r.nextTick + r'.quietTicks * heartbeatInterval

theorem KeptSince.beat {r' : SessionReader} (h : r.KeptSince r') : r.KeptSince r'.beat := by
  refine ⟨h.exit, ?_⟩
  have hTicks := h.ticks
  simp only [SessionReader.beat, rearm, Nat.succ_mul]
  omega

/-- No silent step ends the loop: the timeout is behind the next tick. -/
theorem KeptSince.step {r' : SessionReader} (h : r.KeptSince r') (hWaits : r'.Waits)
    (hSilent : r'.Silent label) : r.KeptSince (r'.step label) := by
  rw [SessionReader.step, h.exit]
  cases label with
  | elapse =>
    simp only [SessionReader.branch]
    split
    · exact ⟨h.exit, h.ticks⟩
    · exact h
  | tick sent =>
    simp only [SessionReader.branch]
    split
    · next hDue =>
      obtain rfl := hSilent.resolve_right (Nat.not_lt.mpr hDue)
      exact h.beat
    · exact h
  | received delivered => exact hSilent.elim
  | streamClosed => exact hSilent.elim
  | streamFailed => exact hSilent.elim
  | timedOut =>
    have hEarly : ¬ r'.deadline ≤ r'.now :=
      Nat.not_le.mpr (hWaits.tick.trans_lt hWaits.deadline)
    simp only [SessionReader.branch, if_neg hEarly]
    exact h
  | shutdown =>
    have hSide : r'.side = .accepted := hSilent
    simp only [SessionReader.branch, hSide]
    exact h

theorem keptSince_run (labels : List Label) : ∀ {r' : SessionReader}, r.KeptSince r' → r'.Inv →
    EachStep step Silent r' labels → r.KeptSince (run step r' labels) := by
  induction labels with
  | nil => exact fun h _ _ => h
  | cons label labels ih =>
    rintro r' h hInv ⟨hSilent, hRest⟩
    exact ih (h.step (hInv.waits h.exit) hSilent) (hInv.step label) hRest

/-- A step that goes on is silent, or a message was passed on. -/
theorem silent_or_hear (hExit : (r.branch label).exit = none) :
    r.Silent label ∨ r.branch label = r.hear := by
  cases label with
  | elapse => exact .inl trivial
  | tick sent =>
    cases sent with
    | true => exact .inl (.inl rfl)
    | false =>
      refine .inl (.inr (Nat.lt_of_not_le fun hDue => ?_))
      simp [SessionReader.branch, hDue, leave] at hExit
  | received delivered =>
    cases delivered with
    | true => exact .inr rfl
    | false => cases hExit
  | streamClosed => cases hExit
  | streamFailed => cases hExit
  | timedOut => exact .inl trivial
  | shutdown =>
    simp only [SessionReader.branch] at hExit
    split at hExit
    · cases hExit
    · next hSide => exact .inl hSide

end

/-- A run that ends in a loop that waits ends in a silent stretch in which all its
quiet ticks lie. -/
theorem exists_silent_stretch (side : NodeSessionSide) (now : Nat) (labels : List Label)
    (hExit : (run step (start side now) labels).exit = none) :
    ∃ before quiet, labels = before ++ quiet ∧
      (run step (start side now) before).exit = none ∧
      (run step (start side now) before).quietTicks = 0 ∧
      EachStep step Silent (run step (start side now) before) quiet := by
  induction labels using List.reverseRecOn with
  | nil => exact ⟨[], [], rfl, rfl, rfl, trivial⟩
  | append_singleton labels label ih =>
    simp only [run_append, run_cons, run_nil] at hExit
    cases hBefore : (run step (start side now) labels).exit with
    | some exit => simp [step, hBefore] at hExit
    | none =>
      rw [step, hBefore] at hExit
      obtain hSilent | hHear := silent_or_hear hExit
      · obtain ⟨before, quiet, rfl, hWaits, hZero, hQuiet⟩ := ih hBefore
        refine ⟨before, quiet ++ [label], by simp, hWaits, hZero, ?_⟩
        rw [run_append] at hSilent
        exact (eachStep_append quiet [label] _).mpr ⟨hQuiet, hSilent, trivial⟩
      · refine ⟨labels ++ [label], [], by simp, ?_, ?_, trivial⟩ <;>
          simp [step, hBefore, hHear, hear, rearm]

instance : DecidablePred BoundedQuiet := fun r =>
  inferInstanceAs (Decidable (r.exit = none → _))

/-- One interval without a message. -/
def quietInterval : List Label :=
  List.replicate heartbeatInterval .elapse ++ [.tick true]

end SessionReader

end WaitAgent.Remote
