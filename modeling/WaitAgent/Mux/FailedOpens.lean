import Mathlib.Data.Finset.Erase
import Mathlib.Data.Finset.Insert
import WaitAgent.Mux.Connection

/-!
# Opens that meet a failure

`open_stream` looks at `dead`, enters the stream into the table and queues its frame, one
after the other, and `fail_connection` sets `dead`, signals the two loops and empties the
table.  `Connection` takes the failure as one step; here its parts and those of the opens are
steps of their own, and of the streams there is only which ids have an entry.  The opens and
the failures of a `Connection` are runs of this model (`reaches_openStream`, `reaches_sendOpen`,
`reaches_pushInboundStream`, `reaches_stop`).
-/

namespace WaitAgent.Mux

open Verified

/-- Where a call of `open_stream` or `open_stream_to` stands. -/
inductive Opening where
  /-- `dead` was not set. -/
  | checked (target : Option String)
  /-- The entry is in the table, and the frame waits for the queue. -/
  | entered (streamId : Nat) (target : Option String)
  /-- Nobody takes the frame, and the entry has yet to be removed. -/
  | unsent (streamId : Nat)
  /-- The id was taken. -/
  | colliding
  /-- It is inside `fail_connection`. -/
  | failing
  | opened (streamId : Nat)
  | refused
  /-- The call was given up at its await. -/
  | cancelled
  deriving DecidableEq

/-- Where a loop stands. -/
inductive Loop where
  | running
  /-- The reader is inside `push_inbound_stream`, behind the insert. -/
  | accepting
  /-- It is inside `fail_connection`. -/
  | failing
  | stopped
  deriving DecidableEq

/-- Where the reader of a connection stands, of its loop. -/
def Reader.loop : Reader → Loop
  | .accepting _ => .accepting
  | .stopped => .stopped
  | _ => .running

/-- Who calls `fail_connection`. -/
inductive Party where
  | reader
  | writer
  | opener (k : Nat)
  deriving DecidableEq

/-- How far the first call of `fail_connection` has come. -/
inductive Failure where
  | absent
  /-- `dead` is set. -/
  | marked (party : Party)
  /-- The loops are signalled. -/
  | signalled (party : Party)
  /-- The table is emptied, and the call has returned. -/
  | drained
  deriving DecidableEq

namespace Opening

/-- The call has returned, or is no more. -/
def done : Opening → Bool
  | opened _ | refused | cancelled => true
  | _ => false

/-- The call is still to send the frame of this stream, or to take its entry back. -/
def owns (streamId : Nat) : Opening → Bool
  | entered s _ | unsent s => s = streamId
  | _ => false

/-- The call waits to send the frame of a stream with an entry. -/
def waitsIn (table : Finset Nat) : Opening → Bool
  | entered s _ => s ∈ table
  | _ => false

end Opening

/-- A connection while it fails. -/
structure Failing where
  nextLocalId : Nat
  table : Finset Nat := ∅
  outbound : List Frame := []
  openers : List Opening := []
  reader : Loop := .running
  writer : Loop := .running
  failure : Failure := .absent

inductive FailingLabel where
  /-- A call looks at `dead`. -/
  | check (target : Option String)
  | insert (k : Nat)
  | send (k : Nat)
  | remove (k : Nat)
  | cancel (k : Nat)
  /-- A call that found its id taken fails the connection. -/
  | collide (k : Nat)
  /-- The reader takes an `Open` or `OpenStream`. -/
  | inbound (streamId : Nat)
  /-- The stream is accepted, or nobody accepts any more. -/
  | accept (held : Bool)
  | readerFails
  /-- The reader takes the entry of a closed or reset stream away. -/
  | forget (streamId : Nat)
  | readerStops
  /-- Another frame for the queue. -/
  | enqueue (frame : Frame)
  | write
  | writerFails
  | writerStops
  /-- The connection is dropped, and its loops are aborted at an await. -/
  | drop
  | signal
  | drain

namespace Failing

def start (role : MuxRole) : Failing where
  nextLocalId := firstStreamId role

def setOpener (s : Failing) (k : Nat) (o : Opening) : Failing :=
  { s with openers := s.openers.set k o }

def hasRoom (s : Failing) : Bool :=
  s.outbound.length < outboundQueue

/-- The loops can see the signal. -/
def shutdown (s : Failing) : Bool :=
  match s.failure with
  | .signalled _ | .drained => true
  | _ => false

def enterFailure (s : Failing) : Party → Failing
  | .reader => { s with reader := .failing }
  | .writer => { s with writer := .failing }
  | .opener k => s.setOpener k .failing

/-- `fail_connection` has returned. -/
def leaveFailure (s : Failing) : Party → Failing
  | .reader => { s with reader := .stopped }
  | .writer => { s with writer := .stopped }
  | .opener k => s.setOpener k .refused

/-- The first call goes on behind `dead`, and the others return at once. -/
def failConnection (s : Failing) (party : Party) : Failing :=
  if s.failure = .absent then { s.enterFailure party with failure := .marked party }
  else s.leaveFailure party

def insert (s : Failing) (k : Nat) : Failing :=
  match s.openers[k]? with
  | some (.checked target) =>
      let streamId := s.nextLocalId
      let advanced := { s with nextLocalId := (streamId + 2) % 2 ^ 32 }
      if streamId ∈ s.table then advanced.setOpener k .colliding
      else
        { advanced.setOpener k (.entered streamId target) with
          table := Insert.insert streamId s.table }
  | _ => s

def send (s : Failing) (k : Nat) : Failing :=
  match s.openers[k]? with
  | some (.entered streamId target) =>
      if s.writer = .stopped then s.setOpener k (.unsent streamId)
      else if s.hasRoom then
        { s.setOpener k (.opened streamId) with
          outbound := s.outbound ++ [Connection.openFrame streamId target] }
      else s
  | _ => s

def remove (s : Failing) (k : Nat) : Failing :=
  match s.openers[k]? with
  | some (.unsent streamId) =>
      { s.setOpener k .refused with table := s.table.erase streamId }
  | _ => s

def cancel (s : Failing) (k : Nat) : Failing :=
  match s.openers[k]? with
  | some (.entered _ _) => s.setOpener k .cancelled
  | _ => s

def collide (s : Failing) (k : Nat) : Failing :=
  match s.openers[k]? with
  | some .colliding => s.failConnection (.opener k)
  | _ => s

/-- `push_inbound_stream`, up to its await. -/
def inbound (s : Failing) (streamId : Nat) : Failing :=
  if streamId ∈ s.table then s.failConnection .reader
  else { s with table := Insert.insert streamId s.table, reader := .accepting }

/-- A loop is aborted, unless it is in the middle of a failure. -/
def abort : Loop → Loop
  | .failing => .failing
  | _ => .stopped

def drain (s : Failing) : Failing :=
  match s.failure with
  | .signalled party => { s.leaveFailure party with table := ∅, failure := .drained }
  | _ => s

def step (s : Failing) : FailingLabel → Failing
  | .check target =>
      if s.failure = .absent then { s with openers := s.openers ++ [.checked target] } else s
  | .insert k => s.insert k
  | .send k => s.send k
  | .remove k => s.remove k
  | .cancel k => s.cancel k
  | .collide k => s.collide k
  | .inbound streamId => if s.reader = .running then s.inbound streamId else s
  | .accept held =>
      if s.reader = .accepting then
        if held then { s with reader := .running } else s.failConnection .reader
      else s
  | .readerFails => if s.reader = .running then s.failConnection .reader else s
  | .forget streamId =>
      if s.reader = .running then { s with table := s.table.erase streamId } else s
  | .readerStops =>
      if s.reader = .running ∧ s.shutdown then { s with reader := .stopped } else s
  | .enqueue frame =>
      if s.writer ≠ .stopped ∧ s.hasRoom then { s with outbound := s.outbound ++ [frame] } else s
  | .write => if s.writer = .running then { s with outbound := s.outbound.tail } else s
  | .writerFails => if s.writer = .running then s.failConnection .writer else s
  | .writerStops =>
      if s.writer = .running ∧ s.shutdown then { s with writer := .stopped } else s
  | .drop => { s with reader := abort s.reader, writer := abort s.writer }
  | .signal =>
      match s.failure with
      | .marked party => { s with failure := .signalled party }
      | _ => s
  | .drain => s.drain

/-! ## The steps of a connection -/

/-- What is seen here of a connection, whose failures are over in one step. -/
def ofConnection (c : Connection) (openers : List Opening) : Failing where
  nextLocalId := c.nextLocalId
  table := c.table.keys.toFinset
  outbound := c.outbound
  openers
  reader := c.reader.loop
  writer := bif c.outboundClosed then .stopped else .running
  failure := bif c.dead then .drained else .absent

/-- The one connection goes on to the other by steps of this model. -/
def Reaches (c : Connection) (openers : List Opening) (c' : Connection) : Prop :=
  ∃ labels openers', run step (ofConnection c openers) labels = ofConnection c' openers'

variable {c c' : Connection} {openers : List Opening}

theorem Reaches.refl (h : ofConnection c openers = ofConnection c' openers) :
    Reaches c openers c' :=
  ⟨[], openers, h⟩

/-- A whole call of `fail_connection`. -/
theorem run_failure (c : Connection) (openers : List Opening) (party : Party) (reason : String) :
    run step ((ofConnection c openers).failConnection party) [.signal, .drain] =
      (ofConnection (c.failConnection reason) openers).leaveFailure party := by
  cases hDead : c.dead <;> cases party <;>
    simp [failConnection, ofConnection, hDead, step, drain, enterFailure, leaveFailure, setOpener,
      Connection.failConnection]

/-- The reader fails the connection. -/
theorem reaches_stop (reason : String) (hRunning : c.reader.loop = .running) :
    Reaches c openers (c.stop reason) := by
  refine ⟨[.readerFails, .signal, .drain], openers, ?_⟩
  rw [run_cons, step, if_pos (show (ofConnection c openers).reader = .running from hRunning),
    run_failure c openers .reader reason]
  rfl

theorem toFinset_keys_insert (m : HashMap Nat Nat) (k a : Nat) :
    (m.insert k a).keys.toFinset = Insert.insert k m.keys.toFinset := by
  ext b
  rw [List.mem_toFinset, ← AList.mem_keys, AList.mem_insert, Finset.mem_insert, List.mem_toFinset,
    ← AList.mem_keys]

theorem toFinset_keys_erase (m : HashMap Nat Nat) (k : Nat) :
    (m.erase k).keys.toFinset = m.keys.toFinset.erase k := by
  ext b
  rw [List.mem_toFinset, ← AList.mem_keys, AList.mem_erase, Finset.mem_erase, List.mem_toFinset,
    ← AList.mem_keys]

theorem mem_table_ofConnection {streamId : Nat} :
    streamId ∈ (ofConnection c openers).table ↔ streamId ∈ c.table := by
  rw [ofConnection, List.mem_toFinset, ← AList.mem_keys]

/-- The stream of an id that is taken has no entry of its own. -/
theorem ofConnection_insertStream {streamId : Nat} (hTaken : streamId ∈ c.table) (call : Call) :
    ofConnection (c.insertStream streamId call) openers = ofConnection c openers := by
  have hSame := Finset.insert_eq_of_mem (List.mem_toFinset.mpr (AList.mem_keys.mp hTaken))
  rw [← toFinset_keys_insert _ _ c.handles.length] at hSame
  exact congrArg (fun table => { ofConnection c openers with table }) hSame

theorem reaches_openStream {target : Option String} {k : Nat}
    (hGet : openers[k]? = some (.checked target)) : Reaches c openers (c.openStream target) := by
  unfold Connection.openStream
  split_ifs with hMay
  · dsimp only
    split_ifs with hTaken
    · refine ⟨[.insert k, .collide k, .signal, .drain], openers.set k .refused, ?_⟩
      have hInsert : (ofConnection c openers).insert k = ofConnection
          ({ c with nextLocalId := (c.nextLocalId + 2) % 2 ^ 32 }.insertStream c.nextLocalId
            .dropped) (openers.set k .colliding) := by
        rw [ofConnection_insertStream (by exact hTaken), insert,
          show (ofConnection c openers).openers[k]? = _ from hGet]
        exact if_pos (mem_table_ofConnection.mpr hTaken)
      have hCollide : (openers.set k .colliding)[k]? = some .colliding :=
        List.getElem?_set_self (List.getElem?_eq_some_iff.mp hGet).1
      rw [run_cons, run_cons, step, hInsert, step, collide,
        show (ofConnection _ (openers.set k .colliding)).openers[k]? = _ from hCollide]
      dsimp only
      rw [run_failure _ _ _ ("stream id " ++ toString c.nextLocalId ++ " is still live")]
      simp only [leaveFailure, setOpener, ofConnection, List.set_set]
    · refine ⟨[.insert k], openers.set k (.entered c.nextLocalId target), ?_⟩
      have hMem : c.nextLocalId ∉ c.table.keys.toFinset := fun hMem =>
        hTaken (AList.mem_keys.mpr (List.mem_toFinset.mp hMem))
      simp only [run_cons, run_nil, step, insert, ofConnection, hGet, if_neg hMem, setOpener,
        ← toFinset_keys_insert _ _ c.handles.length]
      rfl
  · exact .refl rfl

theorem reaches_sendOpen {i : Nat} (hWaits : ∀ h frame, c.handles[i]? = some h →
      h.call = .opening frame → ∃ (k : Nat) (target : Option String),
        openers[k]? = some (.entered h.id target) ∧ frame = Connection.openFrame h.id target) :
    Reaches c openers (c.sendOpen i) := by
  unfold Connection.sendOpen
  split
  · next h hHandle =>
    split
    · next frame hCall =>
      obtain ⟨k, target, hGet, rfl⟩ := hWaits h frame hHandle hCall
      split
      · next hQueue =>
        refine ⟨[.send k], openers.set k (.opened h.id), ?_⟩
        simp only [Connection.queue] at hQueue
        split_ifs at hQueue with hClosed hRoom
        simp [step, send, ofConnection, hGet, hClosed, hasRoom, hRoom, setOpener]
      · exact .refl rfl
      · next hQueue =>
        refine ⟨[.send k, .remove k], openers.set k .refused, ?_⟩
        simp only [Connection.queue] at hQueue
        split_ifs at hQueue with hClosed
        have hUnsent : (openers.set k (.unsent h.id))[k]? = some (.unsent h.id) :=
          List.getElem?_set_self (List.getElem?_eq_some_iff.mp hGet).1
        simp only [run_cons, run_nil, step, send, remove, ofConnection, hGet, hClosed, cond_true,
          if_true, setOpener, hUnsent, List.set_set, ← toFinset_keys_erase, Connection.removeEntry,
          Connection.setHandle]
    · exact .refl rfl
  · exact .refl rfl

theorem reaches_pushInboundStream (streamId : Nat) (hReader : c.reader = .idle) :
    Reaches c openers (c.pushInboundStream streamId) := by
  have hRunning : (ofConnection c openers).reader = .running := by rw [ofConnection, hReader]; rfl
  unfold Connection.pushInboundStream
  dsimp only
  split_ifs with hTaken
  · refine ⟨[.inbound streamId, .signal, .drain], openers, ?_⟩
    rw [run_cons, step, if_pos hRunning, inbound, if_pos (mem_table_ofConnection.mpr hTaken),
      ← ofConnection_insertStream hTaken .arriving, run_failure _ _ _ _]
    rfl
  · refine ⟨[.inbound streamId], openers, ?_⟩
    rw [run_cons, run_nil, step, if_pos hRunning, inbound,
      if_neg (fun hMem => hTaken (mem_table_ofConnection.mp hMem))]
    exact congrArg (fun table => { ofConnection c openers with table, reader := .accepting })
      (toFinset_keys_insert _ _ _).symm

/-! ## What a failure leaves behind -/

/-- `fail_connection` and all opens have returned. -/
def Settled (s : Failing) : Prop :=
  s.failure = .drained ∧ s.reader ≠ .accepting ∧ ∀ o ∈ s.openers, o.done = true

instance (s : Failing) : Decidable s.Settled :=
  inferInstanceAs (Decidable (_ ∧ _ ∧ _))

/-- No stream is left behind. -/
def LeavesNone (s : Failing) : Prop :=
  s.Settled → s.table = ∅

/-- An entry is left behind: behind the drain a call still finds the queue open, or is given
up, while its stream has an entry, or the reader enters a stream. -/
def leavesEntry (s : Failing) : FailingLabel → Bool
  | .send k =>
      s.failure = .drained && s.writer ≠ .stopped && s.hasRoom &&
        s.openers[k]?.any (Opening.waitsIn s.table)
  | .cancel k =>
      s.failure = .drained && s.openers[k]?.any (Opening.waitsIn s.table)
  | .inbound streamId =>
      s.failure = .drained && s.reader = .running && decide (streamId ∉ s.table)
  | _ => false

/-- Behind the drain each entry has a call that is still to send its frame or to take it
back. -/
def Owned (s : Failing) : Prop :=
  s.failure = .drained → ∀ streamId ∈ s.table,
    ∃ (k : Nat) (o : Opening), s.openers[k]? = some o ∧ o.owns streamId = true

variable {s : Failing}

/-- A call moves on without giving an entry up. -/
theorem Owned.setOpener (hOwned : s.Owned) {k : Nat} {old new : Opening}
    (hGet : s.openers[k]? = some old)
    (hKeeps : s.failure = .drained → ∀ streamId ∈ s.table, old.owns streamId = true →
      new.owns streamId = true) : (s.setOpener k new).Owned := by
  intro hDrained streamId hMem
  obtain ⟨j, o, hAt, hOwns⟩ := hOwned hDrained streamId hMem
  by_cases hEq : k = j
  · subst hEq
    cases hGet.symm.trans hAt
    refine ⟨k, new, ?_, hKeeps hDrained streamId hMem hOwns⟩
    exact List.getElem?_set_self (List.getElem?_eq_some_iff.mp hGet).1
  · exact ⟨j, o, (List.getElem?_set_ne hEq).trans hAt, hOwns⟩

/-- The table loses entries, or the failure is not that far. -/
theorem Owned.of_table (hOwned : s.Owned) {t : Failing} (hOpeners : t.openers = s.openers)
    (hFailure : t.failure = .drained → s.failure = .drained) (hTable : t.table ⊆ s.table) :
    t.Owned := by
  intro hDrained streamId hMem
  rw [hOpeners]
  exact hOwned (hFailure hDrained) streamId (hTable hMem)

theorem Owned.failConnection (hOwned : s.Owned) {party : Party}
    (hParty : ∀ k, party = .opener k → s.openers[k]? = some .colliding) :
    (s.failConnection party).Owned := by
  unfold Failing.failConnection
  split_ifs
  · exact fun hDrained => by cases hDrained
  · cases party with
    | reader | writer => exact hOwned
    | opener k => exact hOwned.setOpener (hParty k rfl) (by simp [Opening.owns])

theorem Owned.insert (hOwned : s.Owned) (k : Nat) : (s.insert k).Owned := by
  unfold Failing.insert
  split
  · next target hGet =>
    have hMoved (new : Opening) : (s.setOpener k new).Owned :=
      hOwned.setOpener hGet (by simp [Opening.owns])
    dsimp only
    split_ifs
    · exact hMoved .colliding
    · intro hDrained streamId hMem
      rcases Finset.mem_insert.mp hMem with rfl | hOld
      · refine ⟨k, .entered s.nextLocalId target, ?_, by simp [Opening.owns]⟩
        exact List.getElem?_set_self (List.getElem?_eq_some_iff.mp hGet).1
      · exact hMoved _ hDrained streamId hOld
  · exact hOwned

theorem not_owns_of_kept {table : Finset Nat} {o : Opening} (hKept : o.waitsIn table = false)
    {streamId : Nat} (hMem : streamId ∈ table) {target : Option String} {sent : Nat}
    (hAt : o = .entered sent target) : ¬ o.owns streamId = true := by
  subst hAt
  simp only [Opening.waitsIn, decide_eq_false_iff_not] at hKept
  simp only [Opening.owns, decide_eq_true_eq]
  rintro rfl
  exact hKept hMem

theorem Owned.send (hOwned : s.Owned) {k : Nat} (hLeaves : s.leavesEntry (.send k) = false) :
    (s.send k).Owned := by
  unfold Failing.send
  split
  · next sent target hGet =>
    split_ifs with hStopped hRoom
    · exact hOwned.setOpener hGet fun _ _ _ hOwns => hOwns
    · have hSent : (s.setOpener k (.opened sent)).Owned := by
        apply hOwned.setOpener hGet
        intro hDrained streamId hMem hOwns
        have hKept : (Opening.entered sent target).waitsIn s.table = false := by
          simpa [leavesEntry, hDrained, hStopped, hRoom, hGet] using hLeaves
        exact absurd hOwns (not_owns_of_kept hKept hMem rfl)
      exact hSent.of_table rfl id subset_rfl
    · exact hOwned
  · exact hOwned

theorem Owned.cancel (hOwned : s.Owned) {k : Nat} (hLeaves : s.leavesEntry (.cancel k) = false) :
    (s.cancel k).Owned := by
  unfold Failing.cancel
  split
  · next sent target hGet =>
    refine hOwned.setOpener hGet ?_
    intro hDrained streamId hMem hOwns
    have hKept : (Opening.entered sent target).waitsIn s.table = false := by
      simpa [leavesEntry, hDrained, hGet] using hLeaves
    exact absurd hOwns (not_owns_of_kept hKept hMem rfl)
  · exact hOwned

theorem Owned.remove (hOwned : s.Owned) (k : Nat) : (s.remove k).Owned := by
  unfold Failing.remove
  split
  · next sent hGet =>
    -- what is left are the entries of other calls
    intro hDrained streamId hMem
    obtain ⟨hNe, hOld⟩ := Finset.mem_erase.mp hMem
    obtain ⟨j, o, hAt, hOwns⟩ := hOwned hDrained streamId hOld
    refine ⟨j, o, ?_, hOwns⟩
    by_cases hEq : k = j
    · subst hEq
      cases hGet.symm.trans hAt
      exact absurd (of_decide_eq_true hOwns).symm hNe
    · exact (List.getElem?_set_ne hEq).trans hAt
  · exact hOwned

theorem Owned.inbound (hOwned : s.Owned) {streamId : Nat} (hRunning : s.reader = .running)
    (hLeaves : s.leavesEntry (.inbound streamId) = false) : (s.inbound streamId).Owned := by
  unfold Failing.inbound
  split_ifs with hTaken
  · exact hOwned.failConnection (by simp)
  · intro hDrained
    simp only at hDrained
    simp [leavesEntry, hDrained, hRunning, hTaken] at hLeaves

theorem owned_step (hOwned : s.Owned) (l : FailingLabel) (hLeaves : s.leavesEntry l = false) :
    (s.step l).Owned := by
  cases l with
  | check target =>
    simp only [step]
    split_ifs with hAbsent
    · intro hDrained
      cases hAbsent.symm.trans hDrained
    · exact hOwned
  | insert k => exact hOwned.insert k
  | send k => exact hOwned.send hLeaves
  | remove k => exact hOwned.remove k
  | cancel k => exact hOwned.cancel hLeaves
  | collide k =>
    simp only [step, collide]
    split
    · next hGet => exact hOwned.failConnection fun j hParty => by cases hParty; exact hGet
    · exact hOwned
  | inbound streamId =>
    simp only [step]
    split_ifs with hRunning
    · exact hOwned.inbound hRunning hLeaves
    · exact hOwned
  | accept held =>
    simp only [step]
    split_ifs
    · exact hOwned
    · exact hOwned.failConnection (by simp)
    · exact hOwned
  | readerFails | writerFails =>
    simp only [step]
    split_ifs
    · exact hOwned.failConnection (by simp)
    · exact hOwned
  | forget streamId =>
    simp only [step]
    split_ifs
    · exact hOwned.of_table rfl id (Finset.erase_subset _ _)
    · exact hOwned
  | readerStops | enqueue | write | writerStops =>
    simp only [step]
    split_ifs <;> exact hOwned
  | drop => exact hOwned
  | signal =>
    simp only [step]
    split
    · exact fun hDrained => by cases hDrained
    · exact hOwned
  | drain =>
    simp only [step, drain]
    split
    · intro _ streamId hMem
      simp at hMem
    · exact hOwned

theorem Owned.leavesNone (hOwned : s.Owned) : s.LeavesNone := by
  rintro ⟨hDrained, -, hDone⟩
  apply Finset.eq_empty_of_forall_notMem
  intro streamId hMem
  obtain ⟨k, o, hGet, hOwns⟩ := hOwned hDrained streamId hMem
  have hOver := hDone o (List.mem_of_getElem? hGet)
  cases o <;> simp_all [Opening.done, Opening.owns]

/-- A failed connection has an empty table once all calls have returned, as long as no entry
is left behind by an open that comes behind the drain. -/
theorem failure_empties_table (role : MuxRole) (labels : List FailingLabel)
    (hLabels : EachStep step (fun s l => s.leavesEntry l = false) (start role) labels) :
    Always step LeavesNone (start role) labels :=
  Always.of_eachStep (fun _ l hOwned hLeaves => owned_step hOwned l hLeaves)
    (fun _ hOwned => hOwned.leavesNone) labels _ hLabels (fun hDrained => by cases hDrained)

/-- The reader fails the connection. -/
def failAll : List FailingLabel :=
  [.readerFails, .signal, .drain]

/-- The open comes behind the drain, and finds the writer gone. -/
theorem late_open_refused :
    Always step LeavesNone (start .client)
      ([.check none] ++ failAll ++ [.writerStops, .insert 0, .send 0, .remove 0]) :=
  failure_empties_table .client _ (by decide)

/-- The open comes behind the drain, and the writer is still there. -/
theorem late_open_left :
    (run step (start .client) ([.check none] ++ failAll ++ [.insert 0, .send 0])).Settled ∧
      ¬ (run step (start .client)
        ([.check none] ++ failAll ++ [.insert 0, .send 0])).LeavesNone := by
  refine ⟨by decide, fun hNone => ?_⟩
  have hEmpty := hNone (by decide)
  revert hEmpty
  decide

end Failing

end WaitAgent.Mux
