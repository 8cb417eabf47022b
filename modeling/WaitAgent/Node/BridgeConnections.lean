import WaitAgent.Node.RemoteViewer
import WaitAgent.Verified.Run

/-!
# The bridge connections of a remote session

Every connection to the listener of a remote session is served by a thread of
its own.  The thread takes a number, performs the handshake, puts its stream in
the place of the writer, repeats the request for the mirror, and reads until the
stream ends.  Threads of several connections overlap in any way, so each of these
is a step of its own here.

The size of the mirror is part of this model: a session stores the size it was
opened with, and remembers the size it sent last.  What the connections carry to
the observer is the subject of `RemoteViewer`.
-/

namespace WaitAgent.Node

open Verified

/-- Where the thread of a connection is. -/
inductive BridgePhase where
  /-- it has its number; the handshake is not done -/
  | hello
  /-- the handshake is done; the writer is not installed -/
  | greeted
  /-- the writer is installed; the mirror is to be requested -/
  | installed
  /-- frames are read -/
  | reading
  deriving DecidableEq, Repr

/-- A remote session with the sizes it keeps. -/
structure MirrorSession extends RatatuiRemoteSession where
  opened : Bool := false
  openMirrorResends : Nat := 0
  initialCols : Nat := 80
  initialRows : Nat := 24
  /-- the last size sent to the peer -/
  lastSentSize : Option (Nat × Nat) := none
  /-- the size of the observer's terminal -/
  terminalSize : Nat × Nat := (80, 24)
  deriving DecidableEq, Repr

/-- A session and the threads of its connections.  The model notes, for its own
use, what was written on the connection that owns the writer and which size the
user asked for last. -/
structure Bridges where
  session : MirrorSession := {}
  connections : HashMap Nat BridgePhase := ∅
  /-- the streams that were shut down -/
  shutDown : List Nat := []
  /-- how often a disconnect was reported -/
  disconnects : Nat := 0
  /-- the last size written on the stream of the writer -/
  written : Option (Nat × Nat) := none
  /-- a send on the stream of the writer failed -/
  failed : Bool := false
  /-- the last call of `resize` -/
  lastResize : Option (Nat × Nat) := none

inductive BridgeLabel where
  /-- the thread of a new connection takes its number -/
  | start
  | handshake (connection : Nat) (succeeded : Bool)
  /-- the stream is duplicated and becomes the writer -/
  | install (connection : Nat) (cloned : Bool)
  /-- the mirror is requested again; a send succeeds or fails -/
  | flush (connection : Nat) (sent : Bool)
  | readOutput (connection : Nat)
  /-- the thread reads an error, or sees that the session was stopped -/
  | exit (connection : Nat)
  | openMirror (cols rows : Nat) (sent : Bool)
  | resize (cols rows : Nat) (sent : Bool)
  | watchdog (sent : Bool)
  | stop

/-- What the watchdog does while no output has arrived. -/
inductive WatchdogAction where
  | resend
  | giveUp
  deriving DecidableEq, Repr

def watchdogAction (opened firstOutputReceived : Bool) (resends maxResends : Nat) :
    Option WatchdogAction :=
  if opened = false ∨ firstOutputReceived = true then
    none
  else if maxResends ≤ resends then
    some .giveUp
  else
    some .resend

def openMirrorWatchdogMaxResends : Nat := 5

namespace Bridges

/-- Request the mirror at a size, which is stored; without a writer nothing is
sent. -/
def sendOpenMirror (m : Bridges) (cols rows : Nat) (sent : Bool) : Bridges :=
  let session := { m.session with initialCols := cols, initialRows := rows }
  match session.writer with
  | none => { m with session }
  | some _ =>
      if sent then
        { m with
          session := { session with lastSentSize := some (cols, rows) }
          written := some (cols, rows) }
      else
        { m with session, failed := true }

def resizeLocalScreen (m : Bridges) (cols rows : Nat) : Bridges :=
  { m with session := { m.session with terminalSize := (cols, rows) } }

/-- Open the mirror, once. -/
def openMirror (m : Bridges) (cols rows : Nat) (sent : Bool) : Bridges :=
  if m.session.opened then
    m
  else
    { m with session := { m.session with opened := true } }
      |>.sendOpenMirror cols rows sent
      |>.resizeLocalScreen cols rows

/-- Request the mirror of a session that was opened, at the stored size. -/
def flushOpenMirror (m : Bridges) (sent : Bool) : Bridges :=
  if m.session.opened then
    m.sendOpenMirror m.session.initialCols m.session.initialRows sent
  else
    m

/-- Forward a new size; the answer tells whether a frame was sent. -/
def resize (m : Bridges) (cols rows : Nat) (sent : Bool) : Bridges × Bool :=
  let m := { m with lastResize := some (cols, rows) }
  if m.session.lastSentSize = some (cols, rows) then
    (m, false)
  else
    match m.session.writer with
    | none => (m, false)
    | some _ =>
        if sent then
          ({ m with
            session := { m.session with lastSentSize := some (cols, rows) }
            written := some (cols, rows) }.resizeLocalScreen cols rows, true)
        else
          ({ m with failed := true }, false)

/-- One look of the watchdog. -/
def watchdog (m : Bridges) (sent : Bool) : Bridges :=
  match watchdogAction m.session.opened m.session.firstOutputReceived
      m.session.openMirrorResends openMirrorWatchdogMaxResends with
  | some .resend =>
      { m with session :=
          { m.session with openMirrorResends := m.session.openMirrorResends + 1 } }
        |>.sendOpenMirror m.session.initialCols m.session.initialRows sent
  | some .giveUp => m
  | none => m

/-- The stream takes the place of the writer, whichever stream that is. -/
def install (m : Bridges) (connection : Nat) : Bridges :=
  { m with
    session := { m.session with writer := some connection, currentWriterSeq := connection }
    connections := m.connections.insert connection .installed
    shutDown := m.session.writer.toList ++ m.shutDown
    written := none
    failed := false }

/-- The end of a thread that reads. -/
def exit (m : Bridges) (connection : Nat) : Bridges :=
  let isCurrent := m.session.currentWriterSeq = connection
  { m with
    session := if isCurrent then { m.session with writer := none } else m.session
    connections := m.connections.erase connection
    disconnects :=
      if isCurrent ∧ ¬ m.session.closed then m.disconnects + 1 else m.disconnects }

def stop (m : Bridges) : Bridges :=
  { m with
    session := { m.session with closed := true, running := false, writer := none }
    shutDown := m.session.writer.toList ++ m.shutDown }

/-- The thread of the connection is in the phase. -/
def isIn (m : Bridges) (connection : Nat) (phase : BridgePhase) : Bool :=
  m.connections.lookup connection = some phase

def step (m : Bridges) : BridgeLabel → Bridges
  | .start =>
      { m with
        session := { m.session with nextConnectionSeq := m.session.nextConnectionSeq + 1 }
        connections := m.connections.insert m.session.nextConnectionSeq .hello }
  | .handshake connection succeeded =>
      if m.isIn connection .hello then
        { m with connections :=
            if succeeded then m.connections.insert connection .greeted
            else m.connections.erase connection }
      else m
  | .install connection cloned =>
      if m.isIn connection .greeted then
        if cloned then m.install connection
        else { m with connections := m.connections.erase connection }
      else m
  | .flush connection sent =>
      if m.isIn connection .installed then
        { m.flushOpenMirror sent with connections := m.connections.insert connection .reading }
      else m
  | .readOutput connection =>
      if m.isIn connection .reading then
        { m with session := { m.session with firstOutputReceived := true } }
      else m
  | .exit connection => if m.isIn connection .reading then m.exit connection else m
  | .openMirror cols rows sent => m.openMirror cols rows sent
  | .resize cols rows sent => (m.resize cols rows sent).1
  | .watchdog sent => m.watchdog sent
  | .stop => m.stop

/-! ## Steps that leave the connections alone -/

/-- Nothing about connections and their owner differs. -/
structure SameOwner (m m' : Bridges) : Prop where
  writer : m'.session.writer = m.session.writer
  current : m'.session.currentWriterSeq = m.session.currentWriterSeq
  next : m'.session.nextConnectionSeq = m.session.nextConnectionSeq
  closed : m'.session.closed = m.session.closed
  connections : m'.connections = m.connections
  disconnects : m'.disconnects = m.disconnects

theorem SameOwner.refl (m : Bridges) : SameOwner m m := ⟨rfl, rfl, rfl, rfl, rfl, rfl⟩

theorem sameOwner_sendOpenMirror (m : Bridges) (cols rows : Nat) (sent : Bool) :
    SameOwner m (m.sendOpenMirror cols rows sent) := by
  unfold sendOpenMirror
  dsimp only
  split
  · exact ⟨rfl, rfl, rfl, rfl, rfl, rfl⟩
  · split <;> exact ⟨rfl, rfl, rfl, rfl, rfl, rfl⟩

theorem sameOwner_flushOpenMirror (m : Bridges) (sent : Bool) :
    SameOwner m (m.flushOpenMirror sent) := by
  unfold flushOpenMirror
  split
  · exact m.sameOwner_sendOpenMirror _ _ sent
  · exact .refl m

theorem sameOwner_openMirror (m : Bridges) (cols rows : Nat) (sent : Bool) :
    SameOwner m (m.openMirror cols rows sent) := by
  unfold openMirror
  split
  · exact .refl m
  · have hSent := sameOwner_sendOpenMirror
      { m with session := { m.session with opened := true } } cols rows sent
    exact ⟨hSent.writer, hSent.current, hSent.next, hSent.closed, hSent.connections,
      hSent.disconnects⟩

theorem sameOwner_resize (m : Bridges) (cols rows : Nat) (sent : Bool) :
    SameOwner m (m.resize cols rows sent).1 := by
  unfold resize
  dsimp only
  split
  · exact ⟨rfl, rfl, rfl, rfl, rfl, rfl⟩
  · split
    · exact ⟨rfl, rfl, rfl, rfl, rfl, rfl⟩
    · split <;> exact ⟨rfl, rfl, rfl, rfl, rfl, rfl⟩

theorem sameOwner_watchdog (m : Bridges) (sent : Bool) : SameOwner m (m.watchdog sent) := by
  unfold watchdog
  split
  · have hSent := sameOwner_sendOpenMirror { m with session :=
      { m.session with openMirrorResends := m.session.openMirrorResends + 1 } }
      m.session.initialCols m.session.initialRows sent
    exact ⟨hSent.writer, hSent.current, hSent.next, hSent.closed, hSent.connections,
      hSent.disconnects⟩
  · exact .refl m
  · exact .refl m

/-! ## Who owns the writer -/

/-- Only the connection that installed its stream last can own the writer; when
nobody owns it the session was stopped, or that connection is gone. -/
structure Owned (m : Bridges) : Prop where
  writer : ∀ c, m.session.writer = some c → m.session.currentWriterSeq = c
  numbered : ∀ c phase, m.connections.lookup c = some phase → c < m.session.nextConnectionSeq
  current : m.session.currentWriterSeq < m.session.nextConnectionSeq
  gone : m.session.writer = none → m.session.closed = false →
    m.connections.lookup m.session.currentWriterSeq = none

variable {m : Bridges}

theorem Owned.of_same {m' : Bridges} (h : m.Owned) (hSame : SameOwner m m') : m'.Owned where
  writer c hc := by
    rw [hSame.writer] at hc
    rw [hSame.current]
    exact h.writer c hc
  numbered c phase hc := by
    rw [hSame.connections] at hc
    rw [hSame.next]
    exact h.numbered c phase hc
  current := by
    rw [hSame.current, hSame.next]
    exact h.current
  gone hNone hOpen := by
    rw [hSame.writer] at hNone
    rw [hSame.closed] at hOpen
    rw [hSame.connections, hSame.current]
    exact h.gone hNone hOpen

/-- A connection that is there moves on to another phase. -/
theorem Owned.moveOn (h : m.Owned) {connection : Nat} {old : BridgePhase} (new : BridgePhase)
    (hIn : m.isIn connection old = true) :
    Owned { m with connections := m.connections.insert connection new } := by
  have hOld : m.connections.lookup connection = some old := of_decide_eq_true hIn
  refine { h with numbered := fun c phase hc => ?_, gone := fun hNone hOpen => ?_ }
  · rw [AList.lookup_insert_eq_ite] at hc
    split at hc
    · rename_i hSame
      rw [hSame]
      exact h.numbered connection old hOld
    · exact h.numbered c phase hc
  · have hGone := h.gone hNone hOpen
    rw [AList.lookup_insert_eq_ite, if_neg]
    · exact hGone
    · intro hSame
      rw [hSame, hOld] at hGone
      cases hGone

theorem Owned.leave (h : m.Owned) (connection : Nat) :
    Owned { m with connections := m.connections.erase connection } := by
  refine { h with numbered := fun c phase hc => ?_, gone := fun hNone hOpen => ?_ }
  · exact h.numbered c phase (AList.lookup_of_erase hc).2
  · rw [AList.lookup_erase_eq_ite, h.gone hNone hOpen, ite_self]

theorem Owned.install (h : m.Owned) {connection : Nat} (hIn : m.isIn connection .greeted = true) :
    (m.install connection).Owned := by
  have hMoved := h.moveOn .installed hIn
  have hOld : m.connections.lookup connection = some .greeted := of_decide_eq_true hIn
  exact {
    writer := fun c hc => Option.some.inj hc
    numbered := hMoved.numbered
    current := h.numbered connection .greeted hOld
    gone := fun hNone => by cases hNone }

theorem Owned.exit (h : m.Owned) (connection : Nat) : (m.exit connection).Owned := by
  have hLeft := h.leave connection
  unfold Bridges.exit
  by_cases hCurrent : m.session.currentWriterSeq = connection
  · simp only [if_pos hCurrent]
    refine {
      numbered := hLeft.numbered, current := h.current, writer := fun c hc => ?_, gone := ?_ }
    · cases hc
    · intro _ _
      show (m.connections.erase connection).lookup m.session.currentWriterSeq = none
      rw [AList.lookup_erase_eq_ite, if_pos hCurrent]
  · simp only [if_neg hCurrent]
    exact ⟨hLeft.writer, hLeft.numbered, hLeft.current, hLeft.gone⟩

theorem owned_start : Owned {} where
  writer c hc := by cases hc
  numbered c phase hc := by simp at hc
  current := Nat.zero_lt_one
  gone _ _ := AList.lookup_empty 0

theorem owned_step (m : Bridges) (label : BridgeLabel) (h : m.Owned) : (m.step label).Owned := by
  cases label with
  | start =>
    refine {
      writer := h.writer, current := Nat.lt_succ_of_lt h.current, numbered := ?_, gone := ?_ }
    · intro c phase hc
      simp only [step, AList.lookup_insert_eq_ite] at hc
      split at hc
      · rename_i hSame
        rw [hSame]
        exact Nat.lt_succ_self _
      · exact Nat.lt_succ_of_lt (h.numbered c phase hc)
    · intro hNone hOpen
      show (m.connections.insert m.session.nextConnectionSeq .hello).lookup
        m.session.currentWriterSeq = none
      rw [AList.lookup_insert_eq_ite, if_neg (Nat.ne_of_lt h.current)]
      exact h.gone hNone hOpen
  | handshake connection succeeded =>
    rw [step]
    split
    · rename_i hIn
      cases succeeded with
      | true => exact h.moveOn .greeted hIn
      | false => exact h.leave connection
    · exact h
  | install connection cloned =>
    rw [step]
    split
    · rename_i hIn
      split
      · exact h.install hIn
      · exact h.leave connection
    · exact h
  | flush connection sent =>
    rw [step]
    split
    · rename_i hIn
      have hSame := m.sameOwner_flushOpenMirror sent
      have hMoved := (h.moveOn .reading hIn)
      exact hMoved.of_same
        ⟨hSame.writer, hSame.current, hSame.next, hSame.closed, rfl, hSame.disconnects⟩
    · exact h
  | readOutput connection =>
    rw [step]
    split
    · exact ⟨h.writer, h.numbered, h.current, h.gone⟩
    · exact h
  | exit connection =>
    rw [step]
    split
    · exact h.exit connection
    · exact h
  | openMirror cols rows sent => exact h.of_same (m.sameOwner_openMirror cols rows sent)
  | resize cols rows sent => exact h.of_same (m.sameOwner_resize cols rows sent)
  | watchdog sent => exact h.of_same (m.sameOwner_watchdog sent)
  | stop =>
    exact {
      writer := fun c hc => by cases hc
      numbered := h.numbered
      current := h.current
      gone := fun _ hOpen => by cases hOpen }

/-! ## The newest connection -/

/-- **The newest connection wins**, in one step: the number of the connection
that owns the writer does not decrease, and a connection that does not own the
writer ends without clearing it or reporting a disconnect. -/
structure NewestWins (m : Bridges) (label : BridgeLabel) : Prop where
  neverOlder : m.session.currentWriterSeq ≤ (m.step label).session.currentWriterSeq
  staleExit : ∀ c, label = .exit c → m.session.writer ≠ some c →
    (m.step label).session.writer = m.session.writer ∧
      (m.step label).disconnects = m.disconnects

/-- No connection installs its stream after one with a higher number did. -/
def InOrder (m : Bridges) : BridgeLabel → Prop
  | .install connection cloned =>
      m.isIn connection .greeted = true → cloned = true → m.session.currentWriterSeq ≤ connection
  | _ => True

/-- A connection that lost the writer, or found it taken away by `stop`. -/
theorem exit_stale (h : m.Owned) {c : Nat} (hIn : m.isIn c .reading = true)
    (hStale : m.session.writer ≠ some c) :
    (m.exit c).session.writer = m.session.writer ∧ (m.exit c).disconnects = m.disconnects := by
  have hPhase : m.connections.lookup c = some .reading := of_decide_eq_true hIn
  unfold exit
  by_cases hCurrent : m.session.currentWriterSeq = c
  · -- it installed its stream last, so only `stop` can have taken the writer
    have hNone : m.session.writer = none := by
      cases hWriter : m.session.writer with
      | none => rfl
      | some owner =>
        rw [← h.writer owner hWriter, hCurrent] at hWriter
        exact absurd hWriter hStale
    have hClosed : m.session.closed = true := by
      by_contra hOpen
      have hGone := h.gone hNone (Bool.eq_false_iff.mpr hOpen)
      rw [hCurrent, hPhase] at hGone
      cases hGone
    simp [hCurrent, hNone, hClosed]
  · simp [hCurrent]

theorem current_step_le_iff (m : Bridges) (label : BridgeLabel) :
    m.session.currentWriterSeq ≤ (m.step label).session.currentWriterSeq ↔ m.InOrder label := by
  have hSame : ∀ {m' : Bridges} {label : BridgeLabel}, m'.session.currentWriterSeq
      = m.session.currentWriterSeq → m.InOrder label →
      (m.session.currentWriterSeq ≤ m'.session.currentWriterSeq ↔ m.InOrder label) :=
    fun hEq hTrue => ⟨fun _ => hTrue, fun _ => Nat.le_of_eq hEq.symm⟩
  cases label with
  | install connection cloned =>
    rw [step, InOrder]
    by_cases hIn : m.isIn connection .greeted = true
    · rw [if_pos hIn]
      cases cloned with
      | true => simp [hIn, install]
      | false => simp
    · simp [hIn]
  | start => exact hSame rfl trivial
  | handshake connection succeeded =>
    refine hSame ?_ trivial
    rw [step]
    split <;> rfl
  | flush connection sent =>
    refine hSame ?_ trivial
    rw [step]
    split
    · exact (m.sameOwner_flushOpenMirror sent).current
    · rfl
  | readOutput connection =>
    refine hSame ?_ trivial
    rw [step]
    split <;> rfl
  | exit connection =>
    refine hSame ?_ trivial
    rw [step]
    split
    · unfold exit
      dsimp only
      split <;> rfl
    · rfl
  | openMirror cols rows sent => exact hSame (m.sameOwner_openMirror cols rows sent).current trivial
  | resize cols rows sent => exact hSame (m.sameOwner_resize cols rows sent).current trivial
  | watchdog sent => exact hSame (m.sameOwner_watchdog sent).current trivial
  | stop => exact hSame rfl trivial

theorem nextConnectionSeq_step_le (m : Bridges) (label : BridgeLabel) :
    (m.step label).session.nextConnectionSeq ≤ m.session.nextConnectionSeq + 1 := by
  have hSame {m' : Bridges} (h : m'.session.nextConnectionSeq = m.session.nextConnectionSeq) :
      m'.session.nextConnectionSeq ≤ m.session.nextConnectionSeq + 1 :=
    h ▸ Nat.le_succ _
  cases label with
  | flush connection sent =>
    rw [step]
    split
    · exact hSame (m.sameOwner_flushOpenMirror sent).next
    · exact Nat.le_succ _
  | openMirror cols rows sent => exact hSame (m.sameOwner_openMirror cols rows sent).next
  | resize cols rows sent => exact hSame (m.sameOwner_resize cols rows sent).next
  | watchdog sent => exact hSame (m.sameOwner_watchdog sent).next
  | exit connection => grind [step, exit]
  | _ => grind [step, install, stop]

/-- Connections are numbered from one on, so `n` steps need the numbers up to `n` only. -/
theorem nextConnectionSeq_run_le (labels : List BridgeLabel) :
    (run step {} labels).session.nextConnectionSeq ≤ 1 + labels.length :=
  count_run_le (fun m : Bridges => m.session.nextConnectionSeq) nextConnectionSeq_step_le labels {}

theorem newestWins_iff (h : m.Owned) (label : BridgeLabel) :
    m.NewestWins label ↔ m.InOrder label := by
  constructor
  · exact fun hWins => (m.current_step_le_iff label).mp hWins.neverOlder
  · intro hOrder
    refine { neverOlder := (m.current_step_le_iff label).mpr hOrder, staleExit := ?_ }
    rintro c rfl hStale
    rw [step]
    split
    · exact exit_stale h ‹_› hStale
    · exact ⟨rfl, rfl⟩

end Bridges

/-- **When the newest bridge connection wins.**  In every interleaving of the
threads of any number of connections, of a session from its opening on, the
number of the owner of the writer never decreases, and connections that do not
own it end without an effect on it, exactly when no connection installs its
stream after one with a higher number. -/
theorem newest_bridge_wins_iff (labels : List BridgeLabel) :
    EachStep Bridges.step Bridges.NewestWins {} labels ↔
      EachStep Bridges.step Bridges.InOrder {} labels :=
  eachStep_iff Bridges.owned_step (fun _ label h => Bridges.newestWins_iff h label) labels {}
    Bridges.owned_start

/-- The first of two connections is slow with its handshake. -/
def slowHandshake : List BridgeLabel :=
  [.start, .start, .handshake 2 true, .install 2 true, .handshake 1 true]

/-- It then takes the writer from the newer one, whose stream is shut down. -/
theorem slowHandshake_takes_over :
    ¬ EachStep Bridges.step Bridges.NewestWins {} (slowHandshake ++ [.install 1 true]) ∧
      (run Bridges.step {} slowHandshake).session.writer = some 2 ∧
      (run Bridges.step {} (slowHandshake ++ [.install 1 true])).session.writer = some 1 ∧
      (run Bridges.step {} (slowHandshake ++ [.install 1 true])).shutDown = [2] := by
  refine ⟨fun hWins => ?_, by decide, by decide, by decide⟩
  have hLast : (run Bridges.step {} slowHandshake).NewestWins (.install 1 true) :=
    hWins.2.2.2.2.2.1
  exact absurd hLast.neverOlder (by decide)

end WaitAgent.Node
