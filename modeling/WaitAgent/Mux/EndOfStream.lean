import WaitAgent.Mux.Endpoint

/-!
# The end of a stream, as its reader sees it

`poll_read` infers the end of a stream from an empty queue and a flag, which it looks at one
after the other, or from a queue without senders and two other flags.  The bytes that have
come for a stream are recorded beside the connection, and a read that returns nothing is
compared with them.

The record also covers a connection that is dropped: when the last holder of the table is
gone, so are the senders of all the streams.  And it covers what `poll_recv` answers: a task
that has used up its budget is told that nothing is ready, whatever is in the queue.
-/

namespace WaitAgent.Mux

open Verified

/-- The bytes in the hands of the reader for stream `k`. -/
def Reader.chunkFor (k : Nat) : Reader → List UInt8
  | .delivering i payload => if i = k then payload else []
  | _ => []

/-- The bytes that a step takes off the wire for stream `k`. -/
def Reader.taken (k : Nat) : Reader → Reader → List UInt8
  | .idle, after => after.chunkFor k
  | _, _ => []

/-- The stream whose sender the reader holds. -/
def Reader.sender : Reader → Option Nat
  | .delivering i _ | .closing i => some i
  | _ => none

namespace Connection

/-- What a step does to stream `k`, other than to put a chunk into its queue. -/
inductive Changed (c : Connection) (l : EndLabel) (v : View) (k : Nat) (h : Handle) :
    Handle → Prop where
  | same : Changed c l v k h h
  | took {step : CallStep} {h' : Handle} {frame : Option Frame} (hLabel : l = .act (.call k step))
      (hTook : Handle.Took (c.context k h) h step h' frame) : Changed c l v k h h'
  /-- `open_stream` returns, or the stream is accepted. -/
  | placed {call : Call} (hCall : call = .idle ∨ call = .dropped) :
      Changed c l v k h { h with call }
  | marked (hIdle : c.reader = .idle) (hReader : v.reader = .closing k) :
      Changed c l v k h { h with stream := h.stream.setPeerFin }
  | granted (credit : Nat) :
      Changed c l v k h
        { h with stream := { h.stream with peerCredit := h.stream.peerCredit + credit } }
  | tornDown (detail : Option MuxResetError) :
      Changed c l v k h { h with stream := h.stream.tearDown detail }

/-- What a step does to stream `k` and to the bytes in the hands of the reader. -/
inductive Outcome (c : Connection) (l : EndLabel) (v : View) (k : Nat) (h g : Handle) : Prop where
  | changed (hChanged : Changed c l v k h g)
      (hHand : v.reader ≠ .stopped →
        v.reader.chunkFor k = c.reader.chunkFor k ++ c.reader.taken k v.reader)
  | pushed {payload : List UInt8} (hReader : c.reader = .delivering k payload)
      (hAfter : v.reader = .idle) (hPush : g = { h with stream := h.stream.push payload })

variable {c : Connection} {l : EndLabel} {v : View} {k : Nat} {h g : Handle}

theorem taken_same (reader : Reader) (k : Nat) :
    reader.chunkFor k = reader.chunkFor k ++ reader.taken k reader := by
  cases reader <;> simp [Reader.chunkFor, Reader.taken]

theorem taken_fail {reader after : Reader} (hAfter : after = reader ∨ after = .stopped)
    (hRuns : after ≠ .stopped) : after.chunkFor k = reader.chunkFor k ++ reader.taken k after := by
  rcases hAfter with rfl | rfl
  · exact taken_same after k
  · exact absurd rfl hRuns

theorem Outcome.of_set {i : Nat} {old new : Handle} (hAt : c.handles[i]? = some old)
    (hGet : c.handles[k]? = some h) (hNext : (c.handles.set i new)[k]? = some g)
    (hChanged : i = k → Changed c l v k old new)
    (hHand : v.reader ≠ .stopped →
      v.reader.chunkFor k = c.reader.chunkFor k ++ c.reader.taken k v.reader) :
    Outcome c l v k h g := by
  rcases get_of_set hNext with ⟨rfl, rfl⟩ | ⟨-, hOther⟩
  · cases hAt.symm.trans hGet
    exact .changed (hChanged rfl) hHand
  · cases hOther.symm.trans hGet
    exact .changed .same hHand

/-- What a step does to a stream that is there. -/
theorem Move.outcome (hMove : Move c l v) (hGet : c.handles[k]? = some h)
    (hNext : v.handles[k]? = some g) : Outcome c l v k h g := by
  have hSame : c.handles[k]? = some g → g = h := fun hOld =>
    Option.some.inj (hOld.symm.trans hGet)
  have hAppend {new : Handle} (hNext : (c.handles ++ [new])[k]? = some g) : g = h := by
    rcases get_of_append hNext with ⟨rfl, -⟩ | hOld
    · exact absurd (List.getElem?_eq_some_iff.mp hGet).1 (Nat.lt_irrefl _)
    · exact hSame hOld
  have hStill (_ : c.reader ≠ .stopped) := taken_same c.reader k
  cases hMove with
  | stay | controls | sends =>
    cases hSame hNext
    exact .changed .same hStill
  | call step hAt =>
    exact .of_set hAt hGet hNext (fun hEq => hEq ▸ .took rfl (Handle.took_step _ _ step)) hStill
  | opens =>
    cases hAppend hNext
    exact .changed .same hStill
  | collides _ _ _ _ hReader =>
    cases hAppend hNext
    exact .changed .same (taken_fail hReader)
  | announces hAt | accepts hAt =>
    exact .of_set hAt hGet hNext (fun _ => .placed (Or.inl rfl)) hStill
  | unannounced hAt | cancels hAt =>
    exact .of_set hAt hGet hNext (fun _ => .placed (Or.inr rfl)) hStill
  | quits =>
    cases hSame hNext
    exact .changed .same fun hRuns => absurd rfl hRuns
  | fails _ _ hReader =>
    cases hSame hNext
    exact .changed .same (taken_fail hReader)
  | data payload hIdle =>
    cases hSame hNext
    exact .changed .same fun _ => by simp [hIdle, Reader.taken, Reader.chunkFor]
  | closes hIdle hLookup =>
    refine .of_set (lookup_eq_some hLookup).2 hGet hNext (fun hEq => .marked hIdle ?_) fun _ => ?_
    · rw [hEq]
    · simp [hIdle, Reader.taken, Reader.chunkFor]
  | window hIdle hLookup hGrant =>
    rw [Stream.grant_eq hGrant] at hNext
    exact .of_set (lookup_eq_some hLookup).2 hGet hNext (fun _ => .granted _) hStill
  | inbound hIdle =>
    cases hAppend hNext
    exact .changed .same fun _ => by simp [hIdle, Reader.taken, Reader.chunkFor]
  | tearsDown detail _ _ _ hLookup =>
    exact .of_set (lookup_eq_some hLookup).2 hGet hNext (fun _ => .tornDown detail) hStill
  | passesOver =>
    cases hSame hNext
    exact .changed .same hStill
  | forwards _ hIdle =>
    cases hSame hNext
    exact .changed .same fun _ => by simp [hIdle, Reader.taken, Reader.chunkFor]
  | @pushes i payload old hReader hAt =>
    by_cases hEq : i = k
    · subst hEq
      cases hAt.symm.trans hGet
      refine .pushed hReader rfl ?_
      rcases get_of_set hNext with ⟨-, hNew⟩ | ⟨hNe, -⟩
      · exact hNew
      · exact absurd rfl hNe
    · exact .of_set hAt hGet hNext (fun h => absurd h hEq) fun _ => by
        simp [hReader, Reader.taken, Reader.chunkFor, hEq]
  | closed hReader =>
    cases hSame hNext
    exact .changed .same fun _ => by simp [hReader, Reader.taken, Reader.chunkFor]
  | resumes hReader =>
    cases hSame hNext
    refine .changed .same fun _ => ?_
    rcases hReader with ⟨i, hReader⟩ | ⟨frame, lost, hReader⟩ <;>
      simp [hReader, Reader.taken, Reader.chunkFor]

/-- Only the reader closes the leg of the peer. -/
theorem Move.stays_open (hMove : Move c l v) (hInv : c.view.Inv) (hGet : c.handles[k]? = some h)
    (hOpen : h.stream.peerFin = false) (hReader : v.reader ≠ .closing k) :
    ∃ g, v.handles[k]? = some g ∧ g.stream.peerFin = false := by
  have hLt := lt_of_lt_of_le (List.getElem?_eq_some_iff.mp hGet).1 hMove.length_le
  refine ⟨v.handles[k], List.getElem?_eq_getElem hLt, ?_⟩
  cases hMove.outcome hGet (List.getElem?_eq_getElem hLt) with
  | pushed _ _ hPush =>
    rw [hPush]
    exact hOpen
  | changed hChanged =>
    generalize v.handles[k] = g at hChanged ⊢
    cases hChanged with
    | took _ hTook =>
      have hProper := hInv.proper h (List.mem_of_getElem? hGet)
      exact (Handle.took_same hProper hTook).1.peerFin_eq.trans hOpen
    | marked _ hAt => exact absurd hAt hReader
    | _ => exact hOpen

/-- An entry of a stream that was there has been there. -/
theorem Move.entry_old (hMove : Move c l v) (hLt : k < c.handles.length) {streamId : Nat}
    (hEntry : v.table.lookup streamId = some k) : c.table.lookup streamId = some k := by
  have hInsert {other : Nat}
      (hEntry : (c.table.insert other c.handles.length).lookup streamId = some k) :
      c.table.lookup streamId = some k := by
    rw [AList.lookup_insert_eq_ite] at hEntry
    split_ifs at hEntry
    · exact absurd (Option.some.inj hEntry) (Nat.ne_of_gt hLt)
    · exact hEntry
  have hAfter {table : HashMap Nat Nat} (hEntry : (c.tableAfter table).lookup streamId = some k) :
      table.lookup streamId = some k := by
    unfold tableAfter at hEntry
    split_ifs at hEntry
    · exact hEntry
    · simp at hEntry
  cases hMove with
  | opens | inbound => exact hInsert hEntry
  | collides => exact hInsert (hAfter hEntry)
  | fails => exact hAfter hEntry
  | unannounced | tearsDown | passesOver => exact (AList.lookup_of_erase hEntry).2
  | closed =>
    dsimp only at hEntry
    split_ifs at hEntry
    · exact (AList.lookup_of_erase hEntry).2
    · exact hEntry
  | _ => exact hEntry

/-- Nobody is left to put anything into the queue of stream `k`. -/
def Orphaned (v : View) (k : Nat) (h : Handle) : Prop :=
  v.table.lookup h.id ≠ some k ∧ v.reader.sender ≠ some k

/-- A stream without a sender does not get one. -/
theorem Move.orphaned (hMove : Move c l v) (hInv : c.view.Inv) (hGet : c.handles[k]? = some h)
    (hOrphaned : Orphaned c.view k h) (hId : g.id = h.id) : Orphaned v k g := by
  have hLt : k < c.handles.length := (List.getElem?_eq_some_iff.mp hGet).1
  refine ⟨fun hEntry => hOrphaned.1 (hMove.entry_old hLt (hId ▸ hEntry)), ?_⟩
  have hOld : c.reader.sender ≠ some k := hOrphaned.2
  have hFound {streamId i : Nat} {old : Handle} (hLookup : c.lookup streamId = some (i, old)) :
      some i ≠ some k := by
    intro hEq
    cases hEq
    obtain ⟨hEntry, -⟩ := lookup_eq_some hLookup
    obtain ⟨own, hOwn, rfl⟩ := get_of_entry hInv hEntry
    cases hGet.symm.trans hOwn
    exact hOrphaned.1 hEntry
  have hFail {reader : Reader} (hReader : reader = c.reader ∨ reader = .stopped) :
      reader.sender ≠ some k := by
    rcases hReader with rfl | rfl
    · exact hOld
    · simp [Reader.sender]
  cases hMove with
  | collides _ _ _ _ hReader => exact hFail hReader
  | fails _ _ hReader => exact hFail hReader
  | data _ _ hLookup => exact hFound hLookup
  | closes _ hLookup => exact hFound hLookup
  | quits | inbound | forwards | pushes | closed | resumes => simp [Reader.sender]
  | _ => exact hOld

theorem hasSender_eq_false_iff :
    (c.context k h).hasSender = false ↔ Orphaned c.view k h := by
  have hHolds : c.readerHolds k = false ↔ c.reader.sender ≠ some k := by
    unfold readerHolds
    cases c.reader <;> simp [Reader.sender, eq_comm]
  rw [Orphaned, view_reader, view_table, ← hHolds]
  simp [context]

/-- The reader stops for a reason. -/
theorem Move.stopped (hMove : Move c l v)
    (hOld : c.reader = .stopped → c.dead = true ∨ c.acceptDropped = true)
    (hStopped : v.reader = .stopped) : v.dead = true ∨ v.acceptDropped = true := by
  cases hMove with
  | collides | fails => exact Or.inl rfl
  | quits => exact Or.inr rfl
  | data | closes | inbound | forwards | pushes | closed | resumes => cases hStopped
  | _ => exact hOld hStopped

/-- What the reader takes, it takes from a frame, for an open stream. -/
theorem Move.delivering (hMove : Move c l v) {i : Nat} {payload : List UInt8}
    (hReader : v.reader = .delivering i payload) :
    c.reader = .delivering i payload ∨
      (c.reader = .idle ∧ (∃ streamId, l = .receive (.data streamId payload)) ∧
        ∃ h, c.handles[i]? = some h ∧ h.stream.peerFin = false) := by
  cases hMove with
  | collides _ _ _ _ hSame =>
    rcases hSame with rfl | rfl
    · exact Or.inl hReader
    · cases hReader
  | fails _ _ hSame =>
    rcases hSame with rfl | rfl
    · exact Or.inl hReader
    · cases hReader
  | data payload hIdle hLookup hOpen =>
    cases hReader
    exact Or.inr ⟨hIdle, ⟨_, rfl⟩, _, (lookup_eq_some hLookup).2, hOpen⟩
  | quits | closes | inbound | forwards | pushes | closed | resumes => cases hReader
  | _ => exact Or.inl hReader

/-- A reader that has stopped does not start again. -/
theorem Move.runs (hMove : Move c l v) (hRuns : v.reader ≠ .stopped) : c.reader ≠ .stopped := by
  cases hMove with
  | collides _ _ _ _ hReader =>
    rcases hReader with rfl | rfl
    · exact hRuns
    · exact absurd rfl hRuns
  | fails _ _ hReader =>
    rcases hReader with rfl | rfl
    · exact hRuns
    · exact absurd rfl hRuns
  | quits => exact absurd rfl hRuns
  | data _ hIdle | closes hIdle | inbound hIdle | forwards _ hIdle => simp [hIdle]
  | pushes hReader | closed hReader => simp [hReader]
  | resumes hReader =>
    rcases hReader with ⟨i, hReader⟩ | ⟨frame, lost, hReader⟩ <;> simp [hReader]
  | _ => exact hRuns

/-- A failed connection stays so. -/
theorem Move.dead_stays (hMove : Move c l v) (hDead : c.dead = true) : v.dead = true := by
  cases hMove with
  | collides | fails => rfl
  | _ => exact hDead

/-- A stream that was not there is new. -/
theorem Move.fresh (hMove : Move c l v) (hNone : c.handles[k]? = none)
    (hNext : v.handles[k]? = some g) :
    ∃ id call, g = newHandle id call ∧ NewCall id call := by
  have hOld {α : Prop} (hNext : c.handles[k]? = some g) : α := by
    rw [hNone] at hNext
    cases hNext
  have hSet {i : Nat} {new : Handle} {α : Prop}
      (hNext : (c.handles.set i new)[k]? = some g) : α := by
    have hLe : c.handles.length ≤ k := List.getElem?_eq_none_iff.mp hNone
    have hLt := (List.getElem?_eq_some_iff.mp hNext).1
    rw [List.length_set] at hLt
    omega
  have hNew {new : Handle} (hNext : (c.handles ++ [new])[k]? = some g) : g = new := by
    rcases get_of_append hNext with ⟨-, hEq⟩ | hNext
    · exact hEq
    · exact hOld hNext
  cases hMove with
  | opens target => exact ⟨_, _, hNew hNext, Or.inr (Or.inr ⟨target, rfl⟩)⟩
  | inbound => exact ⟨_, _, hNew hNext, Or.inr (Or.inl rfl)⟩
  | collides _ _ _ _ _ hCall => exact ⟨_, _, hNew hNext, hCall.imp_right Or.inl⟩
  | call | announces | unannounced | cancels | accepts | closes | window | tearsDown | pushes =>
    exact hSet hNext
  | _ => exact hOld hNext

end Connection

/-! ## The record -/

/-- A connection, and what has come for its streams. -/
structure Watched where
  conn : Connection
  /-- The bytes of the `Data` frames that the reader has taken for stream `i`. -/
  sent : Nat → List UInt8 := fun _ => []
  /-- The table is gone with the last of its holders. -/
  released : Bool := false

inductive WatchedLabel where
  | step (label : EndLabel)
  /-- `poll_read` is called, and `poll_recv` answers `Pending` without a look at the queue. -/
  | unready (i room : Nat)
  /-- The connection is dropped, both tasks have ended, and no opener is left. -/
  | release

/-- `open_stream` has not returned. -/
def Call.isOpening : Call → Bool
  | .opening _ => true
  | _ => false

/-- A new stream is opened from this end. -/
def EndLabel.opens : EndLabel → Bool
  | .act (.openStream _) => true
  | _ => false

namespace Watched

/-- A step of the connection, with what it takes off the wire. -/
@[simps]
def advance (w : Watched) (label : EndLabel) : Watched :=
  { w with
    conn := w.conn.next label
    sent := fun i => w.sent i ++ w.conn.reader.taken i (w.conn.next label).reader }

def step (w : Watched) : WatchedLabel → Watched
  | .step label => if w.released && label.opens then w else w.advance label
  | .unready i room =>
      match w.conn.handles[i]? with
      | some h =>
          if h.call = .idle ∧ 0 < room ∧ ¬ h.stream.HasLeftover then
            { w with conn := w.conn.setHandle i { h with call := .reading .empty } }
          else w
      | none => w
  | .release =>
      if w.conn.acceptDropped ∧ w.conn.reader = .stopped ∧
          w.conn.handles.all (fun h => !h.call.isOpening) then
        { w with conn := { w.conn with table := ∅ }, released := true }
      else w

/-- A read that has returned nothing came behind the `Close` of the peer, and everything that
the peer sent has been returned. -/
def EndsRight (w : Watched) : Prop :=
  ∀ i h, w.conn.handles[i]? = some h → h.ended = true →
    h.stream.peerFin = true ∧ h.received = w.sent i

/-- The steps that end a stream too early: an empty chunk is taken in; a read that was told that
nothing is ready looks at the flag when the `Close` has come and a chunk is in the queue; a read
meets a queue that the drop of the connection has closed. -/
def endsEarly (w : Watched) : WatchedLabel → Bool
  | .step (.receive (.data _ payload)) => payload.isEmpty
  | .step (.act (.call i .endRead)) =>
      match w.conn.handles[i]? with
      | some h =>
          (h.call = .reading .empty && h.stream.peerFin && !h.stream.inbound.isEmpty) ||
            (h.call = .reading .closed && w.conn.acceptDropped && !h.stream.peerFin &&
              !h.stream.reset && !w.conn.dead)
      | none => false
  | _ => false

end Watched

/-- How the bytes of stream `k` stand to those that have been `sent`. -/
structure ReadOk (v : View) (sent : List UInt8) (k : Nat) (h : Handle) : Prop where
  chunks : ∀ chunk ∈ h.stream.inbound, chunk ≠ []
  taken : v.reader ≠ .stopped → sent = h.arrived ++ v.reader.chunkFor k
  closed : h.stream.peerFin = true → sent = h.arrived
  ended : h.ended = true → h.stream.peerFin = true ∧ h.received = h.arrived
  orphaned : h.call = .reading .closed →
    v.dead = true ∨ (h.stream.inbound = [] ∧ Connection.Orphaned v k h)

structure Watched.Inv (w : Watched) : Prop where
  inv : w.conn.view.Inv
  live : w.conn.Live → w.conn.view.LiveInv
  stopped : w.conn.reader = .stopped → w.conn.dead = true ∨ w.conn.acceptDropped = true
  delivering : ∀ i payload, w.conn.reader = .delivering i payload →
    payload ≠ [] ∧ ∃ h, w.conn.handles[i]? = some h ∧ h.stream.peerFin = false
  fresh : ∀ i, w.conn.handles.length ≤ i → w.sent i = []
  streams : ∀ i h, w.conn.handles[i]? = some h → ReadOk w.conn.view (w.sent i) i h

section

open Connection

variable {c : Connection} {l : EndLabel} {v : View} {k : Nat} {h g : Handle} {sent : List UInt8}

/-- A step that leaves what has arrived as it is. -/
theorem ReadOk.next (hOk : ReadOk c.view sent k h) (hMove : Move c l v)
    (hHand : v.reader ≠ .stopped →
      v.reader.chunkFor k = c.reader.chunkFor k ++ c.reader.taken k v.reader)
    (hArrived : g.arrived = h.arrived)
    (hChunks : ∀ chunk ∈ g.stream.inbound, chunk ≠ [])
    (hClosed : g.stream.peerFin = true → sent ++ c.reader.taken k v.reader = g.arrived)
    (hEnded : g.ended = true → g.stream.peerFin = true ∧ g.received = g.arrived)
    (hOrphaned : g.call = .reading .closed →
      v.dead = true ∨ (g.stream.inbound = [] ∧ Orphaned v k g)) :
    ReadOk v (sent ++ c.reader.taken k v.reader) k g where
  chunks := hChunks
  taken hRuns := by
    rw [hHand hRuns, hArrived, hOk.taken (hMove.runs hRuns), List.append_assoc]
    rfl
  closed := hClosed
  ended := hEnded
  orphaned := hOrphaned

/-- A step that leaves what a read looks at as it is. -/
theorem ReadOk.kept (hOk : ReadOk c.view sent k h) (hMove : Move c l v) (hInv : c.view.Inv)
    (hGet : c.handles[k]? = some h)
    (hHand : v.reader ≠ .stopped →
      v.reader.chunkFor k = c.reader.chunkFor k ++ c.reader.taken k v.reader)
    (hTaken : h.stream.peerFin = true → c.reader.taken k v.reader = [])
    (hId : g.id = h.id) (hArrived : g.arrived = h.arrived)
    (hInbound : g.stream.inbound = h.stream.inbound) (hPeer : g.stream.peerFin = h.stream.peerFin)
    (hEnded : g.ended = h.ended) (hReceived : g.received = h.received)
    (hCall : g.call = .reading .closed → h.call = .reading .closed) :
    ReadOk v (sent ++ c.reader.taken k v.reader) k g := by
  apply hOk.next hMove hHand hArrived
  · rw [hInbound]
    exact hOk.chunks
  · intro hFin
    rw [hPeer] at hFin
    rw [hTaken hFin, List.append_nil, hArrived]
    exact hOk.closed hFin
  · rw [hEnded, hPeer, hReceived, hArrived]
    exact hOk.ended
  · intro hAt
    rcases hOk.orphaned (hCall hAt) with hDead | ⟨hEmpty, hOrphaned⟩
    · exact Or.inl (hMove.dead_stays hDead)
    · exact Or.inr ⟨hInbound.trans hEmpty, hMove.orphaned hInv hGet hOrphaned hId⟩

/-- A read that has returned everything has done so after a further call. -/
theorem Handle.took_caughtUp {ctx : Context} {step : CallStep} {frame : Option Frame}
    (hProper : h.Proper) (hChunks : ∀ chunk ∈ h.stream.inbound, chunk ≠ [])
    (hTook : Handle.Took ctx h step g frame) (hAll : h.received = h.arrived) :
    g.received = g.arrived := by
  have hSame := (Handle.took_same hProper hTook).1.arrived_eq
  have hGrows := Handle.took_received hProper hChunks hTook
  rw [hAll, ← hSame] at hGrows
  have hWithin : g.received <+: g.arrived := List.prefix_append _ _
  exact hWithin.eq_of_length_le hGrows.length_le

theorem ReadOk.took (hOk : ReadOk c.view sent k h) (hMove : Move c l v) (hInv : c.view.Inv)
    (hGet : c.handles[k]? = some h)
    (hHand : v.reader ≠ .stopped →
      v.reader.chunkFor k = c.reader.chunkFor k ++ c.reader.taken k v.reader)
    (hTaken : h.stream.peerFin = true → c.reader.taken k v.reader = [])
    {step : CallStep} {frame : Option Frame} (hTook : Handle.Took (c.context k h) h step g frame)
    (hEmpty : step = .endRead → h.call = .reading .empty → h.stream.peerFin = true →
      h.stream.inbound = [])
    (hOver : step = .endRead → h.call = .reading .closed → Orphaned c.view k h →
      h.stream.reset = false → c.dead = false → h.stream.peerFin = true) :
    ReadOk v (sent ++ c.reader.taken k v.reader) k g := by
  have hProper := hInv.proper h (List.mem_of_getElem? hGet)
  have hSame := (Handle.took_same hProper hTook).1
  have hNoTail {received : Stream.Received} (hCall : h.call = .reading received)
      (hNone : h.stream.inbound = []) : h.received = h.arrived := by
    have hLeft := (hProper.reading received hCall).1
    have hTail : h.stream.leftover = [] := List.drop_eq_nil_of_le (Nat.le_of_not_lt hLeft)
    simp [Handle.arrived, hTail, hNone]
  have hCaught := Handle.took_caughtUp hProper hOk.chunks hTook
  apply hOk.next hMove hHand hSame.arrived_eq (Handle.took_chunks hProper hOk.chunks hTook)
  · intro hFin
    rw [hSame.peerFin_eq] at hFin
    rw [hTaken hFin, List.append_nil, hSame.arrived_eq]
    exact hOk.closed hFin
  · intro hEnded
    rw [hSame.peerFin_eq]
    rcases Handle.took_ended hProper hOk.chunks hTook hEnded with hBefore | ⟨hStep, hCall, hFin⟩ |
      ⟨hStep, hCall, hReset, hDead⟩
    · obtain ⟨hFin, hAll⟩ := hOk.ended hBefore
      exact ⟨hFin, hCaught hAll⟩
    · exact ⟨hFin, hCaught (hNoTail hCall (hEmpty hStep hCall hFin))⟩
    · rcases hOk.orphaned hCall with hFailed | ⟨hNone, hOrphaned⟩
      · exact absurd (hDead.symm.trans hFailed) (by decide)
      · exact ⟨hOver hStep hCall hOrphaned hReset hDead, hCaught (hNoTail hCall hNone)⟩
  · intro hAt
    rcases Handle.took_closed hTook hAt with ⟨rfl, hCall⟩ | ⟨hSender, hNone⟩
    · rcases hOk.orphaned hCall with hDead | ⟨hNone, hOrphaned⟩
      · exact Or.inl (hMove.dead_stays hDead)
      · exact Or.inr ⟨hNone, hMove.orphaned hInv hGet hOrphaned rfl⟩
    · exact Or.inr ⟨hNone, hMove.orphaned hInv hGet (hasSender_eq_false_iff.mp hSender) hSame.id_eq⟩

end

namespace Watched

open Connection

variable {w : Watched} {label : EndLabel}

/-- What is taken is for an open stream. -/
theorem taken_open {c : Connection} {l : EndLabel} {v : View} {k : Nat} (hMove : Move c l v)
    (hTaken : c.reader.taken k v.reader ≠ []) :
    ∃ h, c.handles[k]? = some h ∧ h.stream.peerFin = false := by
  cases hIdle : c.reader with
  | idle =>
    cases hReader : v.reader with
    | delivering i payload =>
      rw [hIdle, hReader, Reader.taken, Reader.chunkFor] at hTaken
      have hEq : i = k := of_not_not fun hNe => hTaken (if_neg hNe)
      subst hEq
      rcases hMove.delivering hReader with hOld | ⟨-, -, hOpen⟩
      · cases hIdle.symm.trans hOld
      · exact hOpen
    | _ => simp [hIdle, hReader, Reader.taken, Reader.chunkFor] at hTaken
  | _ => simp [hIdle, Reader.taken] at hTaken

theorem endsEarly_endRead {i : Nat} {h : Handle} (hGet : w.conn.handles[i]? = some h)
    (hEarly : w.endsEarly (.step (.act (.call i .endRead))) = false) :
    (h.call = .reading .empty → h.stream.peerFin = true → h.stream.inbound = []) ∧
      (h.call = .reading .closed → w.conn.acceptDropped = true → h.stream.reset = false →
        w.conn.dead = false → h.stream.peerFin = true) := by
  simp only [endsEarly, hGet, Bool.or_eq_false_iff] at hEarly
  constructor
  · intro hCall hFin
    simpa [hCall, hFin] using hEarly.1
  · intro hCall hDropped hReset hDead
    simpa [hCall, hDropped, hReset, hDead] using hEarly.2

/-- What a stream has to say for itself if it was made by the step. -/
theorem streams_fresh (hInv : w.Inv) {k : Nat} {g : Handle} (hGet : w.conn.handles[k]? = none)
    (hNext : (w.conn.next label).handles[k]? = some g) :
    ReadOk (w.conn.next label).view
      (w.sent k ++ w.conn.reader.taken k (w.conn.next label).reader) k g := by
  have hMove := move_next w.conn label
  have hAbsurd {α : Prop} (hOld : ∃ h, w.conn.handles[k]? = some h ∧ h.stream.peerFin = false) :
      α := by
    obtain ⟨h, hOld, -⟩ := hOld
    cases hGet.symm.trans hOld
  have hTaken : w.conn.reader.taken k (w.conn.next label).reader = [] := by
    by_contra hNe
    exact hAbsurd (taken_open hMove hNe)
  have hHand : (w.conn.next label).reader.chunkFor k = [] := by
    unfold Reader.chunkFor
    split
    · next i payload hReader =>
      refine if_neg fun hEq => ?_
      subst hEq
      rcases hMove.delivering hReader with hOld | ⟨-, -, hOpen⟩
      · exact hAbsurd (hInv.delivering i payload hOld).2
      · exact hAbsurd hOpen
    · rfl
  have hNone : w.sent k = [] := hInv.fresh k (List.getElem?_eq_none_iff.mp hGet)
  obtain ⟨id, call, rfl, hCall⟩ := hMove.fresh hGet hNext
  rw [hTaken, hNone]
  constructor
  case chunks => simp [newHandle]
  case taken =>
    intro _
    rw [view_reader, hHand]
    rfl
  case closed => simp [newHandle]
  case ended => simp [newHandle]
  case orphaned =>
    rintro rfl
    rcases hCall with hCall | hCall | ⟨_, hCall⟩ <;> cases hCall

theorem streams_pushed (hInv : w.Inv) {k : Nat} {h g : Handle}
    (hGet : w.conn.handles[k]? = some h) {payload : List UInt8}
    (hReader : w.conn.reader = .delivering k payload)
    (hAfter : (w.conn.next label).view.reader = .idle)
    (hPush : g = { h with stream := h.stream.push payload }) :
    ReadOk (w.conn.next label).view
      (w.sent k ++ w.conn.reader.taken k (w.conn.next label).reader) k g := by
  have hOk := hInv.streams k h hGet
  obtain ⟨hNe, own, hOwn, hOpen⟩ := hInv.delivering k payload hReader
  cases hGet.symm.trans hOwn
  have hSent : w.sent k = h.arrived ++ payload := by
    have hTaken := hOk.taken (by simp [hReader])
    simpa [hReader, Reader.chunkFor] using hTaken
  have hNone : w.conn.reader.taken k (w.conn.next label).reader = [] := by
    simp [hReader, Reader.taken]
  rw [hPush, hNone, List.append_nil, hSent]
  constructor
  case chunks =>
    intro chunk hMem
    rcases List.mem_append.mp hMem with hOld | hNew
    · exact hOk.chunks chunk hOld
    · rw [List.mem_singleton.mp hNew]
      exact hNe
  case taken =>
    intro _
    rw [hAfter, Handle.arrived_push]
    simp [Reader.chunkFor]
  case closed => exact fun hFin => absurd (hOpen.symm.trans hFin) (by decide)
  case ended =>
    exact fun hEnded => absurd (hOpen.symm.trans (hOk.ended hEnded).1) (by decide)
  case orphaned =>
    intro hAt
    rcases hOk.orphaned hAt with hDead | ⟨-, hOrphaned⟩
    · exact Or.inl ((move_next w.conn label).dead_stays hDead)
    · exact absurd (by simp [hReader, Reader.sender]) hOrphaned.2

/-- The reader has nothing in its hands when it takes a `Close`. -/
theorem streams_marked (hInv : w.Inv) {k : Nat} {h : Handle} (hGet : w.conn.handles[k]? = some h)
    (hIdle : w.conn.reader = .idle) (hReader : (w.conn.next label).view.reader = .closing k)
    (hHand : (w.conn.next label).view.reader ≠ .stopped →
      (w.conn.next label).view.reader.chunkFor k =
        w.conn.reader.chunkFor k ++ w.conn.reader.taken k (w.conn.next label).view.reader) :
    ReadOk (w.conn.next label).view
      (w.sent k ++ w.conn.reader.taken k (w.conn.next label).reader) k
      { h with stream := h.stream.setPeerFin } := by
  have hMove := move_next w.conn label
  have hOk := hInv.streams k h hGet
  have hSent : w.sent k = h.arrived := by
    have hTaken := hOk.taken (by simp [hIdle])
    simpa [hIdle, Reader.chunkFor] using hTaken
  have hNone : w.conn.reader.taken k (w.conn.next label).view.reader = [] := by
    rw [hIdle, hReader]
    rfl
  refine hOk.next hMove hHand (by rfl) hOk.chunks ?_ ?_ ?_
  · intro _
    rw [hNone, List.append_nil, hSent]
    rfl
  · exact fun hEnded => ⟨rfl, (hOk.ended hEnded).2⟩
  · intro hAt
    rcases hOk.orphaned hAt with hDead | ⟨hEmpty, hOrphaned⟩
    · exact Or.inl (hMove.dead_stays hDead)
    · exact Or.inr ⟨hEmpty, hMove.orphaned hInv.inv hGet hOrphaned rfl⟩

/-- A read that meets a closed queue meets the end of the stream. -/
theorem over_of_orphaned (hInv : w.Inv) {k : Nat} {h : Handle}
    (hGet : w.conn.handles[k]? = some h) (hOrphaned : Orphaned w.conn.view k h)
    (hReset : h.stream.reset = false) (hDead : w.conn.dead = false)
    (hDropped : w.conn.acceptDropped = true → h.stream.peerFin = true) :
    h.stream.peerFin = true := by
  by_cases hStopped : w.conn.reader = .stopped
  · rcases hInv.stopped hStopped with hFailed | hGone
    · exact absurd (hDead.symm.trans hFailed) (by decide)
    · exact hDropped hGone
  · -- a live connection lists its streams until they are closed
    rcases (hInv.live ⟨hDead, hStopped⟩).listed k h hGet with hEntry | ⟨-, hFin⟩ | hTorn
    · exact absurd hEntry hOrphaned.1
    · exact hFin
    · exact absurd (hReset.symm.trans hTorn) (by decide)

theorem streams_advance (hInv : w.Inv) (hEarly : w.endsEarly (.step label) = false) (k : Nat)
    (g : Handle) (hNext : (w.conn.next label).handles[k]? = some g) :
    ReadOk (w.conn.next label).view
      (w.sent k ++ w.conn.reader.taken k (w.conn.next label).reader) k g := by
  have hMove := move_next w.conn label
  cases hGet : w.conn.handles[k]? with
  | none => exact streams_fresh hInv hGet hNext
  | some h =>
    have hOk := hInv.streams k h hGet
    have hTaken (hFin : h.stream.peerFin = true) :
        w.conn.reader.taken k (w.conn.next label).view.reader = [] := by
      by_contra hNe
      obtain ⟨own, hOwn, hOpen⟩ := taken_open hMove hNe
      cases hGet.symm.trans hOwn
      exact absurd (hOpen.symm.trans hFin) (by decide)
    cases hMove.outcome hGet hNext with
    | pushed hReader hAfter hPush => exact streams_pushed hInv hGet hReader hAfter hPush
    | changed hChanged hHand =>
      have hKept := hOk.kept (g := g) hMove hInv.inv hGet hHand hTaken
      cases hChanged with
      | same => exact hKept rfl rfl rfl rfl rfl rfl fun h => h
      | took hLabel hTook =>
        apply hOk.took hMove hInv.inv hGet hHand hTaken hTook
        · rintro rfl
          subst hLabel
          exact (endsEarly_endRead hGet hEarly).1
        · rintro rfl hCall hOrphaned hReset hDead
          subst hLabel
          exact over_of_orphaned hInv hGet hOrphaned hReset hDead fun hDropped =>
            (endsEarly_endRead hGet hEarly).2 hCall hDropped hReset hDead
      | placed hCall =>
        refine hKept rfl rfl rfl rfl rfl rfl fun hAt => ?_
        rcases hCall with rfl | rfl <;> cases hAt
      | granted => exact hKept rfl rfl rfl rfl rfl rfl fun h => h
      | tornDown => exact hKept rfl rfl rfl rfl rfl rfl fun h => h
      | marked hIdle hReader => exact streams_marked hInv hGet hIdle hReader hHand

theorem inv_advance (hInv : w.Inv) (hEarly : w.endsEarly (.step label) = false) :
    (w.advance label).Inv := by
  have hMove := move_next w.conn label
  constructor
  case inv => exact inv_next hInv.inv label
  case live =>
    intro hLive
    exact hMove.liveInv hInv.inv (hInv.live (hMove.live hLive.1 hLive.2)) hLive.1 hLive.2
  case stopped => exact hMove.stopped hInv.stopped
  case delivering =>
    intro i payload hReader
    have hNot : (w.conn.next label).reader ≠ .closing i := by
      intro hClosing
      cases hReader.symm.trans hClosing
    rcases hMove.delivering hReader with hOld | ⟨-, ⟨streamId, rfl⟩, h, hGet, hOpen⟩
    · obtain ⟨hNe, h, hGet, hOpen⟩ := hInv.delivering i payload hOld
      exact ⟨hNe, hMove.stays_open hInv.inv hGet hOpen hNot⟩
    · refine ⟨?_, hMove.stays_open hInv.inv hGet hOpen hNot⟩
      simpa [endsEarly] using hEarly
  case fresh =>
    intro i hLe
    have hOld : w.conn.handles.length ≤ i := hMove.length_le.trans hLe
    have hTaken : w.conn.reader.taken i (w.conn.next label).reader = [] := by
      by_contra hNe
      obtain ⟨h, hGet, -⟩ := taken_open hMove hNe
      exact absurd (List.getElem?_eq_some_iff.mp hGet).1 (Nat.not_lt.mpr hOld)
    rw [advance_sent, hInv.fresh i hOld, hTaken]
    rfl
  case streams => exact streams_advance hInv hEarly

/-- Only the place of the call changes. -/
theorem inv_unready (hInv : w.Inv) {i : Nat} {h : Handle} (hGet : w.conn.handles[i]? = some h)
    (hLeft : ¬ h.stream.HasLeftover) :
    ({ w with conn := w.conn.setHandle i { h with call := .reading .empty } } : Watched).Inv := by
  have hSet (k : Nat) : (w.conn.handles.set i { h with call := .reading .empty })[k]? =
      if k = i then some { h with call := .reading .empty } else w.conn.handles[k]? := by
    split_ifs with hEq
    · rw [hEq, List.getElem?_set_self (List.getElem?_eq_some_iff.mp hGet).1]
    · exact List.getElem?_set_ne (Ne.symm hEq)
  -- what the connection asks of stream `k` does not depend on its call
  have hFind {P : Handle → Prop} {k : Nat} (hP : ∀ g, P { g with call := .reading .empty } ↔ P g)
      (hOld : ∃ g, w.conn.handles[k]? = some g ∧ P g) :
      ∃ g, (w.conn.handles.set i { h with call := .reading .empty })[k]? = some g ∧ P g := by
    obtain ⟨g, hg, hPg⟩ := hOld
    rw [hSet]
    split_ifs with hEq
    · subst hEq
      cases hGet.symm.trans hg
      exact ⟨_, rfl, (hP _).mpr hPg⟩
    · exact ⟨g, hg, hPg⟩
  have hProper : ({ h with call := .reading .empty } : Handle).Proper :=
    ⟨trivial, fun _ hCall => ⟨hLeft, by cases hCall; exact Or.inl rfl⟩, nofun, nofun, nofun⟩
  constructor
  case inv =>
    exact ⟨indexed_set hInv.inv.indexed hGet rfl,
      fun k hk => (hInv.inv.reader k hk).trans_eq (List.length_set).symm,
      AllHandles.set hInv.inv.proper hProper, hInv.inv.queue⟩
  case live =>
    intro hLive
    have hOld := hInv.live hLive
    refine ⟨fun k g hg => ?_, fun k payload hk => ?_, fun k hk => ?_⟩
    · rw [view_handles, setHandle_handles, hSet] at hg
      split_ifs at hg with hEq
      · subst hEq
        cases hg
        exact hOld.listed k h hGet
      · exact hOld.listed k g hg
    · exact hFind (fun _ => Iff.rfl) (hOld.delivering k payload hk)
    · exact hFind (fun _ => Iff.rfl) (hOld.closing k hk)
  case stopped => exact hInv.stopped
  case delivering =>
    intro k payload hk
    obtain ⟨hNe, hOpen⟩ := hInv.delivering k payload hk
    exact ⟨hNe, hFind (fun _ => Iff.rfl) hOpen⟩
  case fresh => exact fun k hLe => hInv.fresh k (by simpa using hLe)
  case streams =>
    intro k g hg
    rw [setHandle_handles, hSet] at hg
    split_ifs at hg with hEq
    · subst hEq
      cases hg
      have hOk := hInv.streams k h hGet
      exact ⟨hOk.chunks, hOk.taken, hOk.closed, hOk.ended, nofun⟩
    · have hOk := hInv.streams k g hg
      exact ⟨hOk.chunks, hOk.taken, hOk.closed, hOk.ended, hOk.orphaned⟩

theorem inv_step (hInv : w.Inv) (l : WatchedLabel) (hEarly : w.endsEarly l = false) :
    (w.step l).Inv := by
  cases l with
  | step label =>
    simp only [step]
    split_ifs
    · exact hInv
    · exact inv_advance hInv hEarly
  | unready i room =>
    simp only [step]
    split
    · next h hGet =>
      split_ifs with hMay
      · exact inv_unready hInv hGet hMay.2.2
      · exact hInv
    · exact hInv
  | release =>
    simp only [step]
    split_ifs with hGone
    · constructor
      case inv => exact ⟨.empty _, hInv.inv.reader, hInv.inv.proper, hInv.inv.queue⟩
      case live => exact fun hLive => absurd hGone.2.1 hLive.2
      case stopped => exact hInv.stopped
      case delivering => exact hInv.delivering
      case fresh => exact hInv.fresh
      case streams =>
        intro i h hGet
        have hOk := hInv.streams i h hGet
        refine ⟨hOk.chunks, hOk.taken, hOk.closed, hOk.ended, fun hAt => ?_⟩
        refine (hOk.orphaned hAt).imp_right fun ⟨hEmpty, hOrphaned⟩ => ⟨hEmpty, ?_⟩
        exact ⟨by simp, hOrphaned.2⟩
    · exact hInv

theorem inv_start {c : Connection} (hSpawned : c.Spawned) : ({ conn := c } : Watched).Inv where
  inv := hSpawned.inv
  live _ := hSpawned.liveInv
  stopped hStopped := by
    rcases hSpawned with ⟨role, rfl⟩ | rfl <;> simp [spawn, spawnRelayLink] at hStopped
  delivering i payload hReader := by
    rcases hSpawned with ⟨role, rfl⟩ | rfl <;> simp [spawn, spawnRelayLink] at hReader
  fresh _ _ := rfl
  streams i h hGet := by
    rcases hSpawned with ⟨role, rfl⟩ | rfl <;> simp [spawn, spawnRelayLink] at hGet

theorem Inv.endsRight (hInv : w.Inv) : w.EndsRight := by
  intro i h hGet hEnded
  have hOk := hInv.streams i h hGet
  obtain ⟨hFin, hAll⟩ := hOk.ended hEnded
  exact ⟨hFin, hAll.trans (hOk.closed hFin).symm⟩

/-- As long as no step ends a stream early, a read returns nothing only at the end of what the
peer has sent. -/
theorem reads_end_behind_close {c : Connection} (hSpawned : c.Spawned)
    (labels : List WatchedLabel)
    (hLabels : EachStep step (fun w l => w.endsEarly l = false) { conn := c } labels) :
    Always step EndsRight { conn := c } labels :=
  Always.of_eachStep (fun _ l hInv hEarly => inv_step hInv l hEarly) (fun _ hInv => hInv.endsRight)
    labels _ hLabels (inv_start hSpawned)

/-- A read is told too early that nothing is ready, and is tried again; the byte is read, and
then the end of the stream. -/
theorem byte_then_end :
    Always step EndsRight { conn := spawn .server }
      ((acceptOne ++ byteOne).map .step ++ [.unready 0 8, .step (.act (.call 0 .endRead))] ++
        (closeOne ++ readOne ++ readOne).map .step) :=
  reads_end_behind_close (Or.inl ⟨.server, rfl⟩) _ (by decide)

/-- A byte and the `Close` come in between the look at the queue and the look at the flag. -/
def comesBetween : List EndLabel :=
  acceptOne ++ [.act (.call 0 (.read 8))] ++ byteOne ++ closeOne ++ [.act (.call 0 .endRead)]

/-- The byte and the `Close` are there, and the reading task has used up its budget. -/
def spendsBudget : List WatchedLabel :=
  (acceptOne ++ byteOne ++ closeOne).map .step ++
    [.unready 0 8, .step (.act (.call 0 .endRead))]

/-- The connection is dropped while a stream is open. -/
def dropsAll : List WatchedLabel :=
  acceptOne.map .step ++ [.step (.act .dropConnection), .release]

/-- An empty chunk comes in. -/
def comesEmpty : List EndLabel :=
  acceptOne ++ [.receive (.data 1 []), .act .resume] ++ readOne

theorem early_ends :
    ¬ (run step { conn := spawn .server } (comesBetween.map .step)).EndsRight ∧
      ¬ (run step { conn := spawn .server } spendsBudget).EndsRight ∧
      ¬ (run step { conn := spawn .server } (dropsAll ++ readOne.map .step)).EndsRight ∧
      ¬ (run step { conn := spawn .server } (comesEmpty.map .step)).EndsRight := by
  refine ⟨fun hRight => ?_, fun hRight => ?_, fun hRight => ?_, fun hRight => ?_⟩
  · have hAll := (hRight 0 _ rfl rfl).2
    revert hAll
    decide
  · have hAll := (hRight 0 _ rfl rfl).2
    revert hAll
    decide
  · have hFin := (hRight 0 _ rfl rfl).1
    revert hFin
    decide
  · have hFin := (hRight 0 _ rfl rfl).1
    revert hFin
    decide

end Watched

end WaitAgent.Mux
