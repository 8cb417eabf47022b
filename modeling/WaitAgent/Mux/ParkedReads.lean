import WaitAgent.Mux.Calls
import WaitAgent.Mux.EndOfStream

/-!
# Readers that wait

A read that finds its queue empty leaves its waker with the queue and returns `Pending`.  The
waker is called when a chunk comes into the queue or its last sender goes.  The end of the
stream is a flag beside the queue: setting it calls no waker, and the sender goes only if the
own leg is closed already.
-/

namespace WaitAgent.Mux

open Verified

namespace Connection

/-- Somebody can put a chunk into the queue of stream `i`. -/
def hasSender (c : Connection) (i : Nat) : Bool :=
  c.handles[i]?.any fun h => (c.context i h).hasSender

def queuedChunks (c : Connection) (i : Nat) : Nat :=
  (c.handles[i]?.map fun h => h.stream.inbound.length).getD 0

/-- `poll_recv` finds nothing on stream `i`, and the waker stays with the queue. -/
def registers (c : Connection) (i : Nat) : EndLabel → Bool
  | .act (.call j (.read room)) =>
      i = j && c.handles[i]?.any fun h =>
        h.call = .idle && (h.read (c.context i h) room).call = .reading .empty
  | _ => false

/-- The waker of stream `i` is called: a chunk comes in, or the last sender goes. -/
def wakes (c : Connection) (i : Nat) (l : EndLabel) : Bool :=
  c.queuedChunks i < (c.next l).queuedChunks i || (c.hasSender i && !(c.next l).hasSender i)

/-- Whether the last `poll_read` of stream `i` has returned `Pending`. -/
def pendingAfter (c : Connection) (i : Nat) (before : Bool) (l : EndLabel) : Bool :=
  match c.handles[i]?, l with
  | some h, .act (.call j step) =>
      if i = j then
        match h.call, step with
        | .idle, .read _ => false
        | .reading received, .endRead => h.stream.endRead c.link received = .pending
        | _, _ => before
      else before
  | _, _ => before

end Connection

/-- A connection with the wakers of its readers. -/
structure Waiting where
  conn : Connection
  /-- The queue of stream `i` holds a waker. -/
  armed : Nat → Bool := fun _ => false
  /-- The last `poll_read` of stream `i` has returned `Pending`. -/
  pending : Nat → Bool := fun _ => false

namespace Waiting

@[simps]
def step (w : Waiting) (l : EndLabel) : Waiting where
  conn := w.conn.next l
  armed i := w.conn.registers i l || (w.armed i && !w.conn.wakes i l)
  pending i := w.conn.pendingAfter i (w.pending i) l

def parked (w : Waiting) (i : Nat) : Bool :=
  w.pending i && w.armed i

/-- No reader waits for what has come. -/
def NoneParked (w : Waiting) : Prop :=
  ∀ i h, w.conn.handles[i]? = some h → w.parked i = true →
    ¬ (h.stream.inbound = [] ∧ h.stream.peerFin = true)

/-- The same, apart from the stream whose `Close` the reader task is busy with. -/
def NoneLeft (w : Waiting) : Prop :=
  ∀ i h, w.conn.handles[i]? = some h → w.parked i = true →
    h.stream.inbound = [] ∧ h.stream.peerFin = true → w.conn.reader = .closing i

/-- A `Close` comes for a stream whose reader is parked. -/
def closesParked (w : Waiting) : EndLabel → Bool
  | .receive (.close streamId) =>
      w.conn.reader = .idle && (w.conn.lookup streamId).any fun found =>
        !found.2.stream.peerFin && w.parked found.1
  | _ => false

/-- The reader task is through with the `Close` of a stream whose own leg is open and whose
reader is parked. -/
def leavesParked (w : Waiting) : EndLabel → Bool
  | .act .resume =>
      match w.conn.reader with
      | .closing i => w.parked i && w.conn.handles[i]?.any fun h => !h.stream.finSent
      | _ => false
  | _ => false

structure Inv (w : Waiting) : Prop where
  inv : w.conn.view.Inv
  live : w.conn.Live → w.conn.view.LiveInv
  armed : ∀ i, w.armed i = true → ∃ h, w.conn.handles[i]? = some h ∧ h.stream.inbound = []

end Waiting

namespace Connection

variable {c : Connection} {l : EndLabel} {v : View} {i : Nat} {h g : Handle}

theorem registers_eq_true (hRegisters : c.registers i l = true) :
    ∃ room h, l = .act (.call i (.read room)) ∧ c.handles[i]? = some h ∧ h.call = .idle ∧
      (h.read (c.context i h) room).call = .reading .empty := by
  unfold registers at hRegisters
  split at hRegisters
  · next j room =>
    rw [Bool.and_eq_true, decide_eq_true_eq, Option.any_eq_true] at hRegisters
    obtain ⟨rfl, h, hGet, hCall⟩ := hRegisters
    rw [Bool.and_eq_true, decide_eq_true_eq, decide_eq_true_eq] at hCall
    exact ⟨room, h, rfl, hGet, hCall.1, hCall.2⟩
  · cases hRegisters

/-- A read that leaves its waker has not returned. -/
theorem pendingAfter_registers (hRegisters : c.registers i l = true) (before : Bool) :
    c.pendingAfter i before l = false := by
  obtain ⟨room, h, rfl, hGet, hCall, -⟩ := registers_eq_true hRegisters
  simp [pendingAfter, hGet, hCall]

/-- A read returns `Pending` on an open stream only. -/
theorem pendingAfter_eq_true {before : Bool} (hPending : c.pendingAfter i before l = true) :
    before = true ∨ ∃ h, c.handles[i]? = some h ∧ l = .act (.call i .endRead) ∧
      h.stream.peerFin = false := by
  unfold pendingAfter at hPending
  split at hPending
  · next h j step hGet =>
    split_ifs at hPending with hEq
    · subst hEq
      split at hPending
      · cases hPending
      · next received _ =>
        refine Or.inr ⟨h, hGet, rfl, ?_⟩
        have hResult := of_decide_eq_true hPending
        cases received with
        | copied => cases hResult
        | empty =>
          simp only [Stream.endRead] at hResult
          split_ifs at hResult with hFin
          simpa using hFin
        | closed =>
          simp only [Stream.endRead] at hResult
          split_ifs at hResult
      · exact Or.inl hPending
    · exact Or.inl hPending
  · exact Or.inl hPending

theorem queuedChunks_eq (hGet : c.handles[i]? = some h) :
    c.queuedChunks i = h.stream.inbound.length := by
  simp [queuedChunks, hGet]

theorem hasSender_eq (hGet : c.handles[i]? = some h) :
    c.hasSender i = (c.context i h).hasSender := by
  simp [hasSender, hGet]

/-- A queue that is not woken stays empty. -/
theorem empty_next (hInv : c.view.Inv) (hGet : c.handles[i]? = some h)
    (hEmpty : h.stream.inbound = []) (hNext : (c.next l).handles[i]? = some g)
    (hWakes : c.wakes i l = false) : g.stream.inbound = [] := by
  have hProper := hInv.proper h (List.mem_of_getElem? hGet)
  cases (move_next c l).outcome hGet hNext with
  | pushed _ _ hPush =>
    have hGrows := (Bool.or_eq_false_iff.mp hWakes).1
    rw [queuedChunks_eq hGet, queuedChunks_eq hNext, hPush, hEmpty] at hGrows
    simp [Stream.push, hEmpty] at hGrows
  | changed hChanged =>
    cases hChanged with
    | took _ hTook =>
      cases hTook with
      | reads room =>
        have hSub := (Handle.read_bytes (c.context i h) (h := h) room (by simp [hEmpty])).2.1
        exact List.eq_nil_iff_forall_not_mem.mpr fun chunk hMem => by
          simpa [hEmpty] using hSub chunk hMem
      | endsRead hCall =>
        rw [(Handle.endRead_same _ (hProper.reading _ hCall).2).2.1]
        exact hEmpty
      | _ => exact hEmpty
    | _ => exact hEmpty

/-- How the reader comes to be busy with a `Close`. -/
theorem Move.closing (hMove : Move c l v) (hReader : v.reader = .closing i) :
    c.reader = .closing i ∨ ∃ streamId h, l = .receive (.close streamId) ∧ c.reader = .idle ∧
      c.lookup streamId = some (i, h) ∧ h.stream.peerFin = false := by
  cases hMove with
  | collides _ _ _ _ hSame =>
    rcases hSame with rfl | rfl
    · exact Or.inl hReader
    · cases hReader
  | fails _ _ hSame =>
    rcases hSame with rfl | rfl
    · exact Or.inl hReader
    · cases hReader
  | closes hIdle hLookup hOpen =>
    cases hReader
    exact Or.inr ⟨_, _, rfl, hIdle, hLookup, hOpen⟩
  | quits | data | inbound | forwards | pushes | closed | resumes => cases hReader
  | _ => exact Or.inl hReader

/-- How a live reader leaves the `Close` behind. -/
theorem Move.leaves (hMove : Move c l v) (hDead : v.dead = false) (hStopped : v.reader ≠ .stopped)
    (hReader : c.reader = .closing i) (hLeaves : v.reader ≠ .closing i) :
    l = .act .resume ∧ v.reader = .idle ∧ v.handles = c.handles ∧
      ∃ h, c.handles[i]? = some h ∧
        v.table = if h.stream.finSent then c.table.erase h.id else c.table := by
  cases hMove with
  | collides | fails => cases hDead
  | quits => exact absurd rfl hStopped
  | data _ hIdle | closes hIdle | inbound hIdle | forwards _ hIdle =>
    cases hReader.symm.trans hIdle
  | pushes hAt => cases hReader.symm.trans hAt
  | resumes hAt =>
    rcases hAt with ⟨j, hAt⟩ | ⟨frame, lost, hAt⟩ <;> cases hReader.symm.trans hAt
  | closed hAt hGet =>
    cases hReader.symm.trans hAt
    exact ⟨rfl, rfl, rfl, _, hGet, rfl⟩
  | _ => exact absurd hReader hLeaves

end Connection

namespace Waiting

open Connection

variable {w : Waiting} {l : EndLabel} {i : Nat} {h g : Handle}

theorem inv_step (hInv : w.Inv) (l : EndLabel) : (w.step l).Inv := by
  have hMove := move_next w.conn l
  constructor
  case inv => exact inv_next hInv.inv l
  case live =>
    intro hLive
    exact hMove.liveInv hInv.inv (hInv.live (hMove.live hLive.1 hLive.2)) hLive.1 hLive.2
  case armed =>
    intro i hArmed
    rw [step_armed, Bool.or_eq_true, Bool.and_eq_true, Bool.not_eq_true'] at hArmed
    have hStays {h : Handle} (hGet : w.conn.handles[i]? = some h) :
        ∃ g, (w.conn.next l).handles[i]? = some g :=
      ⟨_, List.getElem?_eq_getElem
        (lt_of_lt_of_le (List.getElem?_eq_some_iff.mp hGet).1 hMove.length_le)⟩
    rcases hArmed with hRegisters | ⟨hBefore, hWakes⟩
    · obtain ⟨room, h, rfl, hGet, hIdle, hCall⟩ := registers_eq_true hRegisters
      obtain hRead | ⟨delta, hRead⟩ | ⟨-, -, hEmpty, hRead⟩ :=
        Handle.read_cases (w.conn.context i h) h room
      · cases hRead.symm.trans hCall
      · cases hRead.symm.trans hCall
      · refine ⟨h.read (w.conn.context i h) room, ?_, by rw [hRead]; exact hEmpty⟩
        have hStep : h.step (w.conn.context i h) (.read room) =
            (h.read (w.conn.context i h) room, none) := by
          simp only [Handle.step, hIdle]
        have hCalled := call_quiet hGet hStep
        simp only [step_conn, next, act, hCalled]
        exact get_setHandle hGet _
    · obtain ⟨h, hGet, hEmpty⟩ := hInv.armed i hBefore
      obtain ⟨g, hNext⟩ := hStays hGet
      exact ⟨g, hNext, empty_next hInv.inv hGet hEmpty hNext hWakes⟩

theorem inv_start {c : Connection} (hSpawned : c.Spawned) : ({ conn := c } : Waiting).Inv where
  inv := hSpawned.inv
  live _ := hSpawned.liveInv
  armed _ hArmed := by cases hArmed

theorem parked_iff : w.parked i = true ↔ w.pending i = true ∧ w.armed i = true :=
  Bool.and_eq_true _ _ ▸ Iff.rfl

/-- A reader that is parked after a step was so before it and has not been woken, or its
stream is open. -/
theorem parked_step (hInv : w.Inv) (hParked : (w.step l).parked i = true)
    (hNext : (w.conn.next l).handles[i]? = some g) (hFin : g.stream.peerFin = true) :
    w.parked i = true ∧ w.conn.wakes i l = false := by
  obtain ⟨hPending, hArmed⟩ := parked_iff.mp hParked
  rw [step_pending] at hPending
  rw [step_armed, Bool.or_eq_true, Bool.and_eq_true, Bool.not_eq_true'] at hArmed
  have hKeeps : w.conn.registers i l = false := by
    by_contra hRegisters
    rw [pendingAfter_registers (by simpa using hRegisters)] at hPending
    cases hPending
  obtain ⟨hBefore, hWakes⟩ := hArmed.resolve_left (by simp [hKeeps])
  rcases pendingAfter_eq_true hPending with hWas | ⟨h, hGet, rfl, hOpen⟩
  · exact ⟨parked_iff.mpr ⟨hWas, hBefore⟩, hWakes⟩
  · -- the flag is looked at by the step itself
    cases (move_next w.conn (.act (.call i .endRead))).outcome hGet hNext with
    | pushed _ _ hPush =>
      rw [hPush] at hFin
      cases hOpen.symm.trans hFin
    | changed hChanged =>
      cases hChanged with
      | took _ hTook =>
        have hProper := hInv.inv.proper h (List.mem_of_getElem? hGet)
        rw [(Handle.took_same hProper hTook).1.peerFin_eq] at hFin
        cases hOpen.symm.trans hFin
      | marked hIdle hReader =>
        rcases (move_next w.conn (.act (.call i .endRead))).closing hReader with
          hOld | ⟨_, _, hLabel, -⟩
        · cases hIdle.symm.trans hOld
        · cases hLabel
      | _ => cases hOpen.symm.trans hFin

theorem parked_stays (hPending : w.conn.pendingAfter i (w.pending i) l = w.pending i)
    (hWakes : w.conn.wakes i l = false) (hParked : w.parked i = true) :
    (w.step l).parked i = true := by
  obtain ⟨hWas, hArmed⟩ := parked_iff.mp hParked
  rw [parked_iff, step_pending, step_armed, hPending, hArmed, hWakes]
  exact ⟨hWas, by simp⟩

/-- The reader task of a live connection is at streams that it has closed. -/
theorem peerFin_of_closing (hInv : w.Inv) (hLive : w.conn.Live)
    (hReader : w.conn.reader = .closing i) (hGet : w.conn.handles[i]? = some h) :
    h.stream.peerFin = true := by
  obtain ⟨own, hOwn, -, hFin⟩ := (hInv.live hLive).closing i hReader
  cases hGet.symm.trans hOwn
  exact hFin

theorem closesParked_eq_true :
    w.closesParked l = true ↔ ∃ streamId i h, l = .receive (.close streamId) ∧
      w.conn.reader = .idle ∧ w.conn.lookup streamId = some (i, h) ∧ h.stream.peerFin = false ∧
      w.parked i = true := by
  constructor
  · intro hCloses
    unfold closesParked at hCloses
    split at hCloses
    · next streamId =>
      rw [Bool.and_eq_true, decide_eq_true_eq, Option.any_eq_true] at hCloses
      obtain ⟨hIdle, ⟨i, h⟩, hLookup, hFound⟩ := hCloses
      rw [Bool.and_eq_true, Bool.not_eq_true'] at hFound
      exact ⟨streamId, i, h, rfl, hIdle, hLookup, hFound.1, hFound.2⟩
    · cases hCloses
  · rintro ⟨streamId, i, h, rfl, hIdle, hLookup, hOpen, hParked⟩
    simp [closesParked, hIdle, hLookup, hOpen, hParked]

theorem noneParked_step (hInv : w.Inv) (hNone : w.conn.Live → w.NoneParked) :
    ((w.step l).conn.Live → (w.step l).NoneParked) ↔
      (w.conn.Live → w.closesParked l = false) := by
  have hMove := move_next w.conn l
  constructor
  · intro hNext hLive
    by_contra hCloses
    obtain ⟨streamId, i, h, rfl, hIdle, hLookup, hOpen, hParked⟩ :=
      closesParked_eq_true.mp (by simpa using hCloses)
    obtain ⟨hEntry, hGet⟩ := lookup_eq_some hLookup
    obtain ⟨own, hOwn, hEmpty⟩ := hInv.armed i (parked_iff.mp hParked).2
    cases hGet.symm.trans hOwn
    have hClose : w.conn.next (.receive (.close streamId)) =
        (w.conn.setHandle i { h with stream := h.stream.setPeerFin }).setReader (.closing i) := by
      simp [next, receive, hIdle, dispatch, onClose, hLookup, hOpen]
    have hAfter : (w.conn.next (.receive (.close streamId))).handles[i]? =
        some { h with stream := h.stream.setPeerFin } := by
      rw [hClose]
      exact get_setHandle hGet _
    have hWakes : w.conn.wakes i (.receive (.close streamId)) = false := by
      rw [wakes, queuedChunks_eq hGet, queuedChunks_eq hAfter, hasSender_eq hAfter]
      simp [Stream.setPeerFin, hClose, context, readerHolds]
    have hStays : (w.step (.receive (.close streamId))).parked i = true :=
      parked_stays (by simp [pendingAfter, hGet]) hWakes hParked
    have hLiveNext : (w.step (.receive (.close streamId))).conn.Live := by
      rw [step_conn, hClose]
      exact ⟨hLive.1, by simp⟩
    exact hNext hLiveNext i _ hAfter hStays ⟨hEmpty, rfl⟩
  · intro hCloses hLive i g hNext hParked hEnd
    have hBefore : w.conn.Live := hMove.live hLive.1 hLive.2
    obtain ⟨hWas, -⟩ := parked_step hInv hParked hNext hEnd.2
    obtain ⟨h, hGet, hEmpty⟩ := hInv.armed i (parked_iff.mp hWas).2
    have hOpen : h.stream.peerFin = false := by
      by_contra hFin
      exact hNone hBefore i h hGet hWas ⟨hEmpty, by simpa using hFin⟩
    have hReader : (w.conn.next l).view.reader = .closing i := by
      by_contra hNot
      obtain ⟨own, hOwn, hStill⟩ := hMove.stays_open hInv.inv hGet hOpen hNot
      cases hNext.symm.trans hOwn
      cases hStill.symm.trans hEnd.2
    rcases hMove.closing hReader with hOld | ⟨streamId, own, hLabel, hIdle, hLookup, hOwnOpen⟩
    · cases hOpen.symm.trans (peerFin_of_closing hInv hBefore hOld hGet)
    · have hFound := closesParked_eq_true.mpr
        ⟨streamId, i, own, hLabel, hIdle, hLookup, hOwnOpen, hWas⟩
      cases (hCloses hBefore).symm.trans hFound

theorem leavesParked_eq_true :
    w.leavesParked l = true ↔ ∃ i h, l = .act .resume ∧ w.conn.reader = .closing i ∧
      w.conn.handles[i]? = some h ∧ h.stream.finSent = false ∧ w.parked i = true := by
  constructor
  · intro hLeaves
    unfold leavesParked at hLeaves
    split at hLeaves
    · split at hLeaves
      · next i hReader =>
        rw [Bool.and_eq_true, Option.any_eq_true] at hLeaves
        obtain ⟨hParked, h, hGet, hFin⟩ := hLeaves
        exact ⟨i, h, rfl, hReader, hGet, by simpa using hFin, hParked⟩
      · cases hLeaves
    · cases hLeaves
  · rintro ⟨i, h, rfl, hReader, hGet, hFin, hParked⟩
    simp [leavesParked, hReader, hGet, hFin, hParked]

/-- A stream that is closed on both sides loses its last sender. -/
theorem wakes_closed {c : Connection} (hReader : c.reader = .closing i)
    (hGet : c.handles[i]? = some h) (hIdle : (c.next l).reader = .idle)
    (hHandles : (c.next l).handles = c.handles) (hTable : (c.next l).table = c.table.erase h.id) :
    c.wakes i l = true := by
  have hNext : (c.next l).handles[i]? = some h := hHandles ▸ hGet
  rw [wakes, hasSender_eq hGet, hasSender_eq hNext]
  simp [context, readerHolds, hReader, hIdle, hTable]

theorem noneLeft_step (hInv : w.Inv) (hNone : w.conn.Live → w.NoneLeft) :
    ((w.step l).conn.Live → (w.step l).NoneLeft) ↔
      (w.conn.Live → w.leavesParked l = false) := by
  have hMove := move_next w.conn l
  constructor
  · intro hNext hLive
    by_contra hLeaves
    obtain ⟨i, h, rfl, hReader, hGet, hFin, hParked⟩ :=
      leavesParked_eq_true.mp (by simpa using hLeaves)
    obtain ⟨own, hOwn, hEntry, hPeer⟩ := (hInv.live hLive).closing i hReader
    cases hGet.symm.trans hOwn
    obtain ⟨own, hOwn, hEmpty⟩ := hInv.armed i (parked_iff.mp hParked).2
    cases hGet.symm.trans hOwn
    have hResume : w.conn.next (.act .resume) = w.conn.setReader .idle := by
      simp [next, act, resume, hReader, hGet, hFin]
    have hAfter : (w.conn.next (.act .resume)).handles[i]? = some h := by
      rw [hResume]
      exact hGet
    have hTable : w.conn.table.lookup h.id = some i := hEntry
    have hWakes : w.conn.wakes i (.act .resume) = false := by
      rw [wakes, queuedChunks_eq hGet, queuedChunks_eq hAfter, hasSender_eq hAfter]
      simp [hResume, context, hTable]
    have hStays : (w.step (.act .resume)).parked i = true :=
      parked_stays (by simp [pendingAfter, hGet]) hWakes hParked
    have hLiveNext : (w.step (.act .resume)).conn.Live := by
      rw [step_conn, hResume]
      exact ⟨hLive.1, by simp⟩
    have hStill := hNext hLiveNext i h hAfter hStays ⟨hEmpty, hPeer⟩
    rw [step_conn, hResume] at hStill
    cases hStill
  · intro hLeaves hLive i g hNext hParked hEnd
    have hBefore : w.conn.Live := hMove.live hLive.1 hLive.2
    obtain ⟨hWas, hWakes⟩ := parked_step hInv hParked hNext hEnd.2
    obtain ⟨h, hGet, hEmpty⟩ := hInv.armed i (parked_iff.mp hWas).2
    by_contra hNot
    cases hFin : h.stream.peerFin with
    | false =>
      obtain ⟨own, hOwn, hStill⟩ := hMove.stays_open hInv.inv hGet hFin hNot
      cases hNext.symm.trans hOwn
      cases hStill.symm.trans hEnd.2
    | true =>
      have hReader := hNone hBefore i h hGet hWas ⟨hEmpty, hFin⟩
      obtain ⟨rfl, hIdle, hHandles, own, hOwn, hTable⟩ :=
        hMove.leaves hLive.1 hLive.2 hReader hNot
      cases hGet.symm.trans hOwn
      cases hSent : h.stream.finSent with
      | true =>
        rw [hSent, if_pos rfl] at hTable
        cases hWakes.symm.trans (wakes_closed hReader hGet hIdle hHandles hTable)
      | false =>
        have hFound := leavesParked_eq_true.mpr ⟨i, h, rfl, hReader, hGet, hSent, hWas⟩
        cases (hLeaves hBefore).symm.trans hFound

/-- No reader of a live connection waits for an end that has come exactly if no `Close` comes
for a stream whose reader is parked; and none is left so by the arm of `Close` exactly if that
stream is closed from this end. -/
theorem end_wakes_readers {c : Connection} (hSpawned : c.Spawned) (labels : List EndLabel) :
    (Always step (fun w => w.conn.Live → w.NoneParked) { conn := c } labels ↔
      EachStep step (fun w l => w.conn.Live → w.closesParked l = false) { conn := c } labels) ∧
    (Always step (fun w => w.conn.Live → w.NoneLeft) { conn := c } labels ↔
      EachStep step (fun w l => w.conn.Live → w.leavesParked l = false) { conn := c } labels) := by
  have hStart := inv_start hSpawned
  constructor
  · refine always_iff_eachStep (I := Inv) (fun _ l hInv => inv_step hInv l)
      (fun _ _ hInv hNone => noneParked_step hInv hNone) labels _ hStart ?_
    intro _ i h _ hParked
    cases hParked
  · refine always_iff_eachStep (I := Inv) (fun _ l hInv => inv_step hInv l)
      (fun _ _ hInv hNone => noneLeft_step hInv hNone) labels _ hStart ?_
    intro _ i h _ hParked
    cases hParked

/-- The reader is woken by a byte, and the `Close` comes before it waits again. -/
theorem byte_wakes :
    Always step (fun w => w.conn.Live → w.NoneParked) { conn := spawn .server }
      (acceptOne ++ readOne ++ byteOne ++ closeOne ++ readOne ++ readOne) :=
  (end_wakes_readers (Or.inl ⟨.server, rfl⟩) _).1.mpr (by decide)

/-- The reader waits, and the `Close` wakes nobody. -/
theorem close_wakes_nobody :
    (run step { conn := spawn .server } (acceptOne ++ readOne ++ closeOne)).conn.Live ∧
      ¬ (run step { conn := spawn .server } (acceptOne ++ readOne ++ closeOne)).NoneParked ∧
      ¬ (run step { conn := spawn .server } (acceptOne ++ readOne ++ closeOne)).NoneLeft := by
  refine ⟨by decide, fun hNone => ?_, fun hNone => ?_⟩
  · exact hNone 0 _ rfl (by decide) ⟨by decide, by decide⟩
  · have hReader := hNone 0 _ rfl (by decide) ⟨by decide, by decide⟩
    revert hReader
    decide

end Waiting

end WaitAgent.Mux
