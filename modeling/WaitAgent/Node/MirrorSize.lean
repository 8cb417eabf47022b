import WaitAgent.Node.BridgeConnections

/-!
# The size of a mirrored session

The peer learns the size of the user's window from two kinds of frames: the
request that opens the mirror and the resizes that follow.  A new connection has
seen neither, so the request is repeated on it.  The size it then carries is the
one the mirror was opened with, which later resizes do not replace.

The main result says that this is the whole difficulty: the peer, the user and
the observer agree on the size as long as each request for the mirror is sent
while the size it carries is the one the user asked for last.
-/

namespace WaitAgent.Node

open Verified

namespace Bridges

/-- The size a request for the mirror is repeated with. -/
def initialSize (m : Bridges) : Nat × Nat :=
  (m.session.initialCols, m.session.initialRows)

/-- The size of the last `resize`, or the initial one. -/
def asked (m : Bridges) : Nat × Nat :=
  m.lastResize.getD m.initialSize

/-- A connection owns the writer and no send on it failed. -/
def live (m : Bridges) : Bool :=
  m.session.writer.isSome && !m.failed

/-- **The peer is told the size the user asked for**: the last size written on a
live connection is this size, and the observer's terminal has it too. -/
def SizeAgrees (m : Bridges) : Prop :=
  ∀ size, m.live = true → m.written = some size →
    size = m.asked ∧ size = m.session.terminalSize

/-- The stored size is the one the user asked for and sees. -/
def StoredIsAsked (m : Bridges) : Prop :=
  m.initialSize = m.asked ∧ m.initialSize = m.session.terminalSize

/-- A request for the mirror is written on a live connection only at the size
the user asked for and sees; the first one may set that size. -/
def AsksForCurrent (m : Bridges) : BridgeLabel → Prop
  | .flush connection sent =>
      m.isIn connection .installed = true → m.session.opened = true → m.live = true →
        sent = true → m.StoredIsAsked
  | .watchdog sent =>
      watchdogAction m.session.opened m.session.firstOutputReceived m.session.openMirrorResends
          openMirrorWatchdogMaxResends = some .resend →
        m.live = true → sent = true → m.StoredIsAsked
  | .openMirror cols rows sent =>
      m.session.opened = false → m.live = true → sent = true →
        ∀ size, m.lastResize = some size → (cols, rows) = size
  | _ => True

instance (m : Bridges) : Decidable m.SizeAgrees :=
  match h : m.written with
  | none => isTrue fun size _ hWritten => by rw [h] at hWritten; cases hWritten
  | some size =>
      decidable_of_iff
        (m.live = true → size = m.asked ∧ size = m.session.terminalSize)
        ⟨fun hAll size' hLive hWritten => by
          rw [h] at hWritten
          rw [← Option.some.inj hWritten]
          exact hAll hLive, fun hAll hLive => hAll size hLive h⟩

/-! ## Sends -/

variable {m : Bridges}

/-- What was written on the owner's stream was sent last. -/
def Noted (m : Bridges) : Prop :=
  ∀ size, m.written = some size → m.session.lastSentSize = some size

/-- The only effect a request for the mirror can have on the agreement. -/
theorem sizeAgrees_sendOpenMirror (m : Bridges) (cols rows : Nat) (sent : Bool) :
    (m.sendOpenMirror cols rows sent).SizeAgrees ↔
      (m.live = true → sent = true → (cols, rows) = m.lastResize.getD (cols, rows) ∧
        (cols, rows) = m.session.terminalSize) := by
  unfold sendOpenMirror SizeAgrees live asked initialSize
  cases hWriter : m.session.writer with
  | none => simp [hWriter]
  | some owner =>
    cases sent with
    | false => simp [hWriter]
    | true => simp [hWriter]

theorem noted_sendOpenMirror (h : m.Noted) (cols rows : Nat) (sent : Bool) :
    (m.sendOpenMirror cols rows sent).Noted := by
  unfold sendOpenMirror
  dsimp only
  split
  · exact h
  · split
    · exact fun size hWritten => hWritten
    · exact h

theorem noted_start : Noted {} := by
  intro size hWritten
  cases hWritten

theorem noted_step (m : Bridges) (label : BridgeLabel) (h : m.Noted) : (m.step label).Noted := by
  cases label with
  | start => exact h
  | handshake connection succeeded =>
    rw [step]
    split <;> exact h
  | install connection cloned =>
    rw [step]
    split
    · split
      · exact fun size hWritten => by cases hWritten
      · exact h
    · exact h
  | flush connection sent =>
    rw [step]
    split
    · have hFlushed : (m.flushOpenMirror sent).Noted := by
        unfold flushOpenMirror
        split
        · exact noted_sendOpenMirror h _ _ sent
        · exact h
      exact hFlushed
    · exact h
  | readOutput connection =>
    rw [step]
    split <;> exact h
  | exit connection =>
    rw [step]
    split
    · unfold exit
      dsimp only
      split <;> exact h
    · exact h
  | openMirror cols rows sent =>
    rw [step, openMirror]
    split
    · exact h
    · exact noted_sendOpenMirror (m := { m with session := { m.session with opened := true } })
        h cols rows sent
  | resize cols rows sent =>
    rw [step]
    unfold resize
    dsimp only
    split
    · exact h
    · split
      · exact h
      · split
        · exact fun size hWritten => hWritten
        · exact h
  | watchdog sent =>
    rw [step]
    unfold watchdog
    split
    · exact noted_sendOpenMirror (m := { m with session :=
        { m.session with openMirrorResends := m.session.openMirrorResends + 1 } }) h _ _ sent
    · exact h
    · exact h
  | stop => exact h

/-! ## Which steps keep the agreement -/

theorem sizeAgrees_resize (hNoted : m.Noted) (h : m.SizeAgrees) (cols rows : Nat) (sent : Bool) :
    (m.resize cols rows sent).1.SizeAgrees := by
  unfold resize
  dsimp only
  split
  · -- suppressed: the size was the last one sent, so it is what was written here, if anything was
    rename_i hLast
    intro size hLive hWritten
    have hSize : some size = some (cols, rows) := (hNoted size hWritten).symm.trans hLast
    exact ⟨Option.some.inj hSize, (h size hLive hWritten).2⟩
  · split
    · rename_i hNone
      intro size hLive
      simp [live, hNone] at hLive
    · split
      · intro size _ hWritten
        exact ⟨(Option.some.inj hWritten).symm, (Option.some.inj hWritten).symm⟩
      · intro size hLive
        simp [live] at hLive

theorem sizeAgrees_flush_iff (h : m.SizeAgrees) (connection : Nat) (sent : Bool) :
    (m.step (.flush connection sent)).SizeAgrees ↔ m.AsksForCurrent (.flush connection sent) := by
  rw [step, AsksForCurrent]
  by_cases hIn : m.isIn connection .installed = true
  · rw [if_pos hIn]
    have hSame : ∀ (m' : Bridges) (connections : HashMap Nat BridgePhase),
        ({ m' with connections } : Bridges).SizeAgrees ↔ m'.SizeAgrees := fun _ _ => Iff.rfl
    rw [hSame, flushOpenMirror]
    by_cases hOpened : m.session.opened = true
    · rw [if_pos hOpened, sizeAgrees_sendOpenMirror]
      exact ⟨fun hSent _ _ => hSent, fun hSent => hSent hIn hOpened⟩
    · rw [if_neg hOpened]
      exact ⟨fun _ _ hTrue => absurd hTrue hOpened, fun _ => h⟩
  · rw [if_neg hIn]
    exact ⟨fun _ hTrue => absurd hTrue hIn, fun _ => h⟩

theorem sizeAgrees_watchdog_iff (h : m.SizeAgrees) (sent : Bool) :
    (m.step (.watchdog sent)).SizeAgrees ↔ m.AsksForCurrent (.watchdog sent) := by
  rw [step, watchdog, AsksForCurrent]
  split
  · rename_i hResend
    rw [sizeAgrees_sendOpenMirror]
    exact ⟨fun hSent _ => hSent, fun hSent => hSent hResend⟩
  · rename_i hGiveUp
    rw [hGiveUp]
    exact ⟨fun _ hResend => by simp at hResend, fun _ => h⟩
  · rename_i hNone
    rw [hNone]
    exact ⟨fun _ hResend => by simp at hResend, fun _ => h⟩

theorem sizeAgrees_openMirror_iff (h : m.SizeAgrees) (cols rows : Nat) (sent : Bool) :
    (m.step (.openMirror cols rows sent)).SizeAgrees ↔
      m.AsksForCurrent (.openMirror cols rows sent) := by
  rw [step, openMirror, AsksForCurrent]
  by_cases hOpened : m.session.opened = true
  · rw [if_pos hOpened]
    exact ⟨fun _ hNot => absurd hNot (by simp [hOpened]), fun _ => h⟩
  · rw [if_neg hOpened]
    unfold sendOpenMirror resizeLocalScreen SizeAgrees live asked initialSize
    cases hWriter : m.session.writer with
    | none => simp [hWriter]
    | some owner =>
      cases sent with
      | false => simp [hWriter]
      | true => cases m.lastResize <;> simp [hWriter, hOpened]

theorem sizeAgrees_step_iff (hNoted : m.Noted) (h : m.SizeAgrees) (label : BridgeLabel) :
    (m.step label).SizeAgrees ↔ m.AsksForCurrent label := by
  cases label with
  | flush connection sent => exact sizeAgrees_flush_iff h connection sent
  | watchdog sent => exact sizeAgrees_watchdog_iff h sent
  | openMirror cols rows sent => exact sizeAgrees_openMirror_iff h cols rows sent
  | resize cols rows sent =>
    exact ⟨fun _ => trivial, fun _ => sizeAgrees_resize hNoted h cols rows sent⟩
  | start => exact ⟨fun _ => trivial, fun _ => h⟩
  | handshake connection succeeded =>
    refine ⟨fun _ => trivial, fun _ => ?_⟩
    rw [step]
    split <;> exact h
  | install connection cloned =>
    refine ⟨fun _ => trivial, fun _ => ?_⟩
    rw [step]
    split
    · split
      · -- nothing was written on the new stream yet
        exact fun size _ hWritten => by cases hWritten
      · exact h
    · exact h
  | readOutput connection =>
    refine ⟨fun _ => trivial, fun _ => ?_⟩
    rw [step]
    split <;> exact h
  | exit connection =>
    refine ⟨fun _ => trivial, fun _ => ?_⟩
    rw [step]
    split
    · unfold exit
      dsimp only
      split
      · exact fun size hLive => by simp [live] at hLive
      · exact h
    · exact h
  | stop => exact ⟨fun _ => trivial, fun _ size hLive => by simp [step, stop, live] at hLive⟩

end Bridges

/-- **When the peer ends up at the size the user asked for.**  Over every
sequence of resizes, connection takeovers, failed sends and requests for the
mirror, peer, user and observer agree in all states with a live connection
exactly when each request for the mirror carries the size that the user asked
for last and sees. -/
theorem mirror_size_agrees_iff (labels : List BridgeLabel) :
    Always Bridges.step Bridges.SizeAgrees {} labels ↔
      EachStep Bridges.step Bridges.AsksForCurrent {} labels := by
  refine always_iff_eachStep Bridges.noted_step
    (fun _ label hNoted h => Bridges.sizeAgrees_step_iff hNoted h label) labels {}
    Bridges.noted_start ?_
  intro size _ hWritten
  cases hWritten

/-- A session is opened at 80 by 24 and resized to 120 by 40; then a second
connection takes over. -/
def resizeThenTakeover : List BridgeLabel :=
  [.start, .handshake 1 true, .install 1 true, .flush 1 true, .openMirror 80 24 true,
    .resize 120 40 true, .start, .handshake 2 true, .install 2 true, .flush 2 true]

/-- The new connection carries the size the mirror was opened with, while user
and observer are at the size of the resize. -/
theorem resizeThenTakeover_disagrees :
    ¬ Always Bridges.step Bridges.SizeAgrees {} resizeThenTakeover ∧
      (run Bridges.step {} resizeThenTakeover).session.writer = some 2 ∧
      (run Bridges.step {} resizeThenTakeover).failed = false ∧
      (run Bridges.step {} resizeThenTakeover).written = some (80, 24) ∧
      (run Bridges.step {} resizeThenTakeover).lastResize = some (120, 40) ∧
      (run Bridges.step {} resizeThenTakeover).session.terminalSize = (120, 40) := by
  decide

end WaitAgent.Node
