import WaitAgent.Mux.Transcript

/-!
# One end of a connection

A connection on its own: whatever its owners do, and whatever frames the peer sends.  What
a step can do is said once, by `Move`: the streams, the table, the place of the reader and
the outbound queue after it.  The facts about whole runs go through its cases.
-/

namespace WaitAgent.Mux

open Verified

inductive EndLabel where
  | act (action : Connection.Action)
  /-- The writer task sends the next frame. -/
  | write
  /-- The reader task takes a frame. -/
  | receive (frame : Frame)

/-- The relay ends the stream with this frame. -/
def Frame.TearsDown (streamId : Nat) (frame : Frame) : Prop :=
  frame = .closeStream streamId ∨ ∃ code message, frame = .error streamId code message

/-- The part of a connection that its streams depend on. -/
structure View where
  role : MuxRole
  mode : Mode
  handles : List Handle
  table : HashMap Nat Nat
  reader : Reader
  outbound : List Frame
  outboundClosed : Bool
  dead : Bool
  acceptDropped : Bool

namespace Connection

def next (c : Connection) : EndLabel → Connection
  | .act action => c.act action
  | .write =>
      match c.write with
      | some (_, sent) => sent
      | none => c
  | .receive frame => c.receive frame

@[simps]
def view (c : Connection) : View where
  role := c.role
  mode := c.mode
  handles := c.handles
  table := c.table
  reader := c.reader
  outbound := c.outbound
  outboundClosed := c.outboundClosed
  dead := c.dead
  acceptDropped := c.acceptDropped

/-- It has not failed, and its owner holds it. -/
def Live (c : Connection) : Prop :=
  c.dead = false ∧ c.reader ≠ .stopped

instance (c : Connection) : Decidable c.Live :=
  inferInstanceAs (Decidable (_ ∧ _))

/-- How a connection starts out. -/
def Spawned (c : Connection) : Prop :=
  (∃ role, c = spawn role) ∨ c = spawnRelayLink

/-- `fail_connection` empties the table the first time. -/
def tableAfter (c : Connection) (table : HashMap Nat Nat) : HashMap Nat Nat :=
  if c.dead then table else ∅

/-- The handle of a new stream. -/
def newHandle (streamId : Nat) (call : Call) : Handle :=
  { stream := { id := streamId }, call }

/-- What a step leads to. -/
inductive Move (c : Connection) : EndLabel → View → Prop where
  /-- A reader that waits for a frame does something with it. -/
  | stay (l : EndLabel) (hBusy : ∀ frame, l = .receive frame → c.reader ≠ .idle) : Move c l c.view
  | call {i : Nat} {h : Handle} (step : CallStep) (hGet : c.handles[i]? = some h) :
      Move c (.act (.call i step))
        { c.view with
          handles := c.handles.set i (h.step (c.context i h) step).1
          outbound := c.outbound ++ (h.step (c.context i h) step).2.toList }
  | opens (target : Option String) (hMay : c.mayOpen target = true)
      (hNew : c.nextLocalId ∉ c.table) :
      Move c (.act (.openStream target))
        { c.view with
          handles := c.handles ++
            [newHandle c.nextLocalId (.opening (openFrame c.nextLocalId target))]
          table := c.table.insert c.nextLocalId c.handles.length }
  /-- A new stream whose id is taken. -/
  | collides {l : EndLabel} (streamId : Nat) (call : Call) (reader : Reader)
      (hTaken : streamId ∈ c.table) (hReader : reader = c.reader ∨ reader = .stopped)
      (hCall : call = .dropped ∨ call = .arriving) :
      Move c l
        { c.view with
          handles := c.handles ++ [newHandle streamId call]
          table := c.tableAfter (c.table.insert streamId c.handles.length)
          reader
          dead := true }
  | announces {i : Nat} {h : Handle} {frame : Frame} (hGet : c.handles[i]? = some h)
      (hCall : h.call = .opening frame) (hQueue : c.queue = .queued) :
      Move c (.act (.sendOpen i))
        { c.view with
          handles := c.handles.set i { h with call := .idle }
          outbound := c.outbound ++ [frame] }
  | unannounced {i : Nat} {h : Handle} {frame : Frame} (hGet : c.handles[i]? = some h)
      (hCall : h.call = .opening frame) (hQueue : c.queue = .closed) :
      Move c (.act (.sendOpen i))
        { c.view with
          handles := c.handles.set i { h with call := .dropped }
          table := c.table.erase h.id }
  | cancels {i : Nat} {h : Handle} {frame : Frame} (hGet : c.handles[i]? = some h)
      (hCall : h.call = .opening frame) :
      Move c (.act (.cancelOpen i))
        { c.view with handles := c.handles.set i { h with call := .dropped } }
  | accepts {i : Nat} {h : Handle} (hGet : c.handles[i]? = some h) (hCall : h.call = .arriving) :
      Move c (.act .accept) { c.view with handles := c.handles.set i { h with call := .idle } }
  | controls {frame : Frame} (hMode : c.mode = .relayLink) (hMay : mayControl frame = true) :
      Move c (.act (.sendControl frame)) { c.view with outbound := c.outbound ++ [frame] }
  | quits :
      Move c (.act .dropConnection)
        { c.view with reader := .stopped, outboundClosed := true, acceptDropped := true }
  /-- The connection fails, or a loop notices that it has. -/
  | fails {l : EndLabel} (reader : Reader) (closed : Bool)
      (hReader : reader = c.reader ∨ reader = .stopped) (hClosed : c.outboundClosed → closed) :
      Move c l
        { c.view with
          table := c.tableAfter c.table
          reader
          outboundClosed := closed
          dead := true }
  | data {streamId i : Nat} {h : Handle} (payload : List UInt8) (hIdle : c.reader = .idle)
      (hLookup : c.lookup streamId = some (i, h)) (hOpen : h.stream.peerFin = false) :
      Move c (.receive (.data streamId payload)) { c.view with reader := .delivering i payload }
  | closes {streamId i : Nat} {h : Handle} (hIdle : c.reader = .idle)
      (hLookup : c.lookup streamId = some (i, h)) (hOpen : h.stream.peerFin = false) :
      Move c (.receive (.close streamId))
        { c.view with
          handles := c.handles.set i { h with stream := h.stream.setPeerFin }
          reader := .closing i }
  | window {streamId i credit : Nat} {h : Handle} {s : Stream} (hIdle : c.reader = .idle)
      (hLookup : c.lookup streamId = some (i, h)) (hGrant : h.stream.grant credit = some s) :
      Move c (.receive (.window streamId credit))
        { c.view with handles := c.handles.set i { h with stream := s } }
  /-- A stream of the peer; `frame` is `Open`, or `OpenStream` on a relay link. -/
  | inbound {streamId : Nat} {frame : Frame} (hIdle : c.reader = .idle)
      (hNew : streamId ∉ c.table)
      (hFrame : frame = .opened streamId ∧ c.mode = .nodeToNode ∧
        ownsStreamId c.role streamId = false ∨
        (∃ node, frame = .openStream streamId node) ∧ c.mode = .relayLink) :
      Move c (.receive frame)
        { c.view with
          handles := c.handles ++ [newHandle streamId .arriving]
          table := c.table.insert streamId c.handles.length
          reader := .accepting c.handles.length }
  | tearsDown {streamId i : Nat} {h : Handle} {frame : Frame} (detail : Option MuxResetError)
      (hIdle : c.reader = .idle) (hMode : c.mode = .relayLink) (hFrame : frame.TearsDown streamId)
      (hLookup : c.lookup streamId = some (i, h)) :
      Move c (.receive frame)
        { c.view with
          handles := c.handles.set i { h with stream := h.stream.tearDown detail }
          table := c.table.erase streamId }
  | passesOver {streamId : Nat} {frame : Frame} (hIdle : c.reader = .idle)
      (hMode : c.mode = .relayLink) (hLookup : c.lookup streamId = none) :
      Move c (.receive frame) { c.view with table := c.table.erase streamId }
  | forwards {frame : Frame} (lost : String) (hIdle : c.reader = .idle)
      (hMode : c.mode = .relayLink) :
      Move c (.receive frame) { c.view with reader := .forwarding frame lost }
  | pushes {i : Nat} {payload : List UInt8} {h : Handle}
      (hReader : c.reader = .delivering i payload) (hGet : c.handles[i]? = some h)
      (hHeld : h.call ≠ .dropped) (hRoom : h.stream.inbound.length < inboundChunkQueue) :
      Move c (.act .resume)
        { c.view with
          handles := c.handles.set i { h with stream := h.stream.push payload }
          reader := .idle }
  | closed {i : Nat} {h : Handle} (hReader : c.reader = .closing i)
      (hGet : c.handles[i]? = some h) :
      Move c (.act .resume)
        { c.view with
          table := if h.stream.finSent then c.table.erase h.id else c.table
          reader := .idle }
  | resumes (hReader : (∃ i, c.reader = .accepting i) ∨ ∃ frame lost,
      c.reader = .forwarding frame lost) :
      Move c (.act .resume) { c.view with reader := .idle }
  | sends {frame : Frame} {rest : List Frame} (hOutbound : c.outbound = frame :: rest)
      (hOpen : c.outboundClosed = false) : Move c .write { c.view with outbound := rest }

theorem view_failConnection (c : Connection) (reason : String) :
    (c.failConnection reason).view =
      { c.view with table := c.tableAfter c.table, dead := true } := by
  unfold failConnection tableAfter
  by_cases hDead : c.dead = true
  · rw [if_pos hDead, if_pos hDead, ← hDead]
    rfl
  · rw [if_neg hDead, if_neg hDead]
    rfl

theorem view_setReader (c : Connection) (reader : Reader) :
    (c.setReader reader).view = { c.view with reader } :=
  rfl

theorem view_stop (c : Connection) (reason : String) :
    (c.stop reason).view =
      { c.view with table := c.tableAfter c.table, reader := .stopped, dead := true } := by
  rw [stop, view_setReader, view_failConnection]

section

variable {c : Connection} {l : EndLabel}

theorem move_stop (reason : String) : Move c l (c.stop reason).view := by
  rw [view_stop]
  exact .fails .stopped c.outboundClosed (Or.inr rfl) id

theorem move_noticed (hDead : c.dead = true) (reader : Reader) (closed : Bool)
    (hReader : reader = c.reader ∨ reader = .stopped) (hClosed : c.outboundClosed → closed) :
    Move c l { c.view with reader, outboundClosed := closed } := by
  have hView : ({ c.view with reader, outboundClosed := closed } : View) =
      { c.view with
        table := c.tableAfter c.table
        reader
        outboundClosed := closed
        dead := true } := by
    simp [tableAfter, hDead]
  rw [hView]
  exact .fails reader closed hReader hClosed

theorem move_call (i : Nat) (step : CallStep) :
    Move c (.act (.call i step)) (c.call i step).view := by
  unfold call
  split
  · exact .stay _ (by simp)
  · next h hGet => exact .call step hGet

theorem move_openStream (target : Option String) :
    Move c (.act (.openStream target)) (c.openStream target).view := by
  unfold openStream
  extract_lets streamId advanced
  split_ifs with hMay hTaken
  · rw [view_failConnection]
    exact .collides streamId .dropped c.reader hTaken (Or.inl rfl) (Or.inl rfl)
  · exact .opens target hMay hTaken
  · exact .stay _ (by simp)

theorem move_sendOpen (i : Nat) : Move c (.act (.sendOpen i)) (c.sendOpen i).view := by
  unfold sendOpen
  split
  · next h hGet =>
    split
    · next frame hCall =>
      split
      · next hQueue => exact .announces hGet hCall hQueue
      · exact .stay _ (by simp)
      · next hQueue => exact .unannounced hGet hCall hQueue
    · exact .stay _ (by simp)
  · exact .stay _ (by simp)

theorem move_cancelOpen (i : Nat) : Move c (.act (.cancelOpen i)) (c.cancelOpen i).view := by
  unfold cancelOpen
  split
  · next h hGet =>
    split
    · next frame hCall => exact .cancels hGet hCall
    · exact .stay _ (by simp)
  · exact .stay _ (by simp)

theorem move_accept : Move c (.act .accept) c.accept.view := by
  unfold accept
  split
  · split
    · next h hGet =>
      split
      · next hCall => exact .accepts hGet hCall
      · exact .stay _ (by simp)
    · exact .stay _ (by simp)
  · exact .stay _ (by simp)

theorem move_resume : Move c (.act .resume) c.resume.view := by
  unfold resume
  split
  · next i payload hReader =>
    split
    · next h hGet =>
      split_ifs with hDropped hRoom
      · exact move_stop _
      · exact .pushes hReader hGet hDropped hRoom
      · exact .stay _ (by simp)
    · exact .stay _ (by simp)
  · next i hReader =>
    split
    · next h hGet =>
      have hClosed := Move.closed hReader hGet
      split_ifs with hFin
      · rw [if_pos hFin] at hClosed
        exact hClosed
      · rw [if_neg hFin] at hClosed
        exact hClosed
    · exact .stay _ (by simp)
  · next i hReader =>
    split_ifs
    · exact move_stop _
    · exact .resumes (Or.inl ⟨i, hReader⟩)
    · exact .stay _ (by simp)
  · next frame lost hReader =>
    split
    · exact .resumes (Or.inr ⟨frame, lost, hReader⟩)
    all_goals exact move_stop _
  all_goals exact .stay _ (by simp)

theorem move_act (action : Action) : Move c (.act action) (c.act action).view := by
  cases action with
  | call i step => exact move_call i step
  | openStream target => exact move_openStream target
  | sendOpen i => exact move_sendOpen i
  | cancelOpen i => exact move_cancelOpen i
  | accept => exact move_accept
  | sendControl frame =>
    simp only [act, sendControl]
    split_ifs with hMay
    · exact .controls hMay.1 hMay.2.1
    · exact .stay _ (by simp)
  | dropControl => exact .stay _ (by simp)
  | dropConnection => exact .quits
  | resume => exact move_resume
  | readFails reason =>
    simp only [act]
    split_ifs
    · exact move_stop _
    · exact .stay _ (by simp)
  | writeFails reason =>
    have hView : (c.act (.writeFails reason)).view =
        { (c.failConnection reason).view with outboundClosed := true } := rfl
    rw [hView, view_failConnection]
    exact .fails c.reader true (Or.inl rfl) (fun _ => rfl)
  | stopReader =>
    simp only [act]
    split_ifs with hStop
    · exact move_noticed hStop.1 .stopped c.outboundClosed (Or.inr rfl) id
    · exact .stay _ (by simp)
  | stopWriter =>
    simp only [act]
    split_ifs with hDead
    · exact move_noticed hDead c.reader true (Or.inl rfl) (fun _ => rfl)
    · exact .stay _ (by simp)

theorem move_write : Move c .write (c.next .write).view := by
  cases hOutbound : c.outbound with
  | nil =>
    simp only [next, write, hOutbound]
    exact .stay _ (by simp)
  | cons frame rest =>
    simp only [next, write, hOutbound]
    by_cases hClosed : c.outboundClosed = true
    · rw [if_pos hClosed]
      exact .stay _ (by simp)
    · rw [if_neg hClosed]
      exact .sends hOutbound (by simpa using hClosed)

/-! ### Frames from the peer -/

theorem move_pushInboundStream {streamId : Nat} {frame : Frame} (hIdle : c.reader = .idle)
    (hFrame : frame = .opened streamId ∧ c.mode = .nodeToNode ∧
      ownsStreamId c.role streamId = false ∨
      (∃ node, frame = .openStream streamId node) ∧ c.mode = .relayLink) :
    Move c (.receive frame) (c.pushInboundStream streamId).view := by
  unfold pushInboundStream
  extract_lets inserted
  split_ifs with hTaken
  · rw [view_stop]
    exact .collides streamId .arriving .stopped hTaken (Or.inr rfl) (Or.inr rfl)
  · exact .inbound hIdle hTaken hFrame

theorem move_onData {streamId : Nat} {payload : List UInt8} (hIdle : c.reader = .idle) :
    Move c (.receive (.data streamId payload)) (c.onData streamId payload).view := by
  unfold onData
  split
  · exact move_stop _
  · next i h hLookup =>
    split_ifs with hFin
    · exact move_stop _
    · exact .data payload hIdle hLookup (by simpa using hFin)

theorem move_onClose {streamId : Nat} (hIdle : c.reader = .idle) :
    Move c (.receive (.close streamId)) (c.onClose streamId).view := by
  unfold onClose
  split
  · exact move_stop _
  · next i h hLookup =>
    split_ifs with hFin
    · exact move_stop _
    · exact .closes hIdle hLookup (by simpa using hFin)

theorem move_onWindow {streamId credit : Nat} (hIdle : c.reader = .idle) :
    Move c (.receive (.window streamId credit)) (c.onWindow streamId credit).view := by
  unfold onWindow
  split
  · exact move_stop _
  · next i h hLookup =>
    split
    · next s hGrant => exact .window hIdle hLookup hGrant
    · exact move_stop _

theorem move_teardownStream {streamId : Nat} {frame : Frame} {detail : Option MuxResetError}
    (hIdle : c.reader = .idle) (hMode : c.mode = .relayLink) (hFrame : frame.TearsDown streamId) :
    Move c (.receive frame) (c.teardownStream streamId detail).view := by
  unfold teardownStream
  split
  · next hLookup => exact .passesOver hIdle hMode hLookup
  · next i h hLookup => exact .tearsDown detail hIdle hMode hFrame hLookup

theorem move_forwardControl {frame : Frame} {missing lost : String} (hIdle : c.reader = .idle)
    (hMode : c.mode = .relayLink) :
    Move c (.receive frame) (c.forwardControl frame missing lost).view := by
  unfold forwardControl
  split
  · exact move_stop _
  all_goals exact .forwards lost hIdle hMode

theorem move_dispatch (frame : Frame) (hIdle : c.reader = .idle) :
    Move c (.receive frame) (c.dispatch frame).view := by
  cases frame with
  | opened streamId =>
    simp only [dispatch]
    split_ifs with hMode hOwns
    · exact move_stop _
    · exact move_stop _
    · have hNode : c.mode = .nodeToNode := by
        cases h : c.mode with
        | nodeToNode => rfl
        | relayLink => exact absurd h hMode
      exact move_pushInboundStream hIdle (Or.inl ⟨rfl, hNode, by simpa using hOwns⟩)
  | openStream streamId node =>
    simp only [dispatch]
    split_ifs with hMode hOdd
    · exact move_stop _
    · exact move_stop _
    · exact move_pushInboundStream hIdle (Or.inr ⟨⟨node, rfl⟩, not_not.mp hMode⟩)
  | closeStream streamId =>
    simp only [dispatch]
    split_ifs with hMode
    · exact move_stop _
    · exact move_teardownStream hIdle (not_not.mp hMode) (Or.inl rfl)
  | error streamId code message =>
    simp only [dispatch]
    split_ifs with hMode hZero
    · exact move_stop _
    · exact move_forwardControl hIdle (not_not.mp hMode)
    · exact move_teardownStream hIdle (not_not.mp hMode) (Or.inr ⟨code, message, rfl⟩)
  | presence nodeId online =>
    simp only [dispatch]
    split_ifs with hMode
    · exact move_stop _
    · exact move_forwardControl hIdle (not_not.mp hMode)
  | adminResponse seq body =>
    simp only [dispatch]
    split_ifs with hMode
    · exact move_stop _
    · exact move_forwardControl hIdle (not_not.mp hMode)
  | data streamId payload => exact move_onData hIdle
  | close streamId => exact move_onClose hIdle
  | window streamId credit => exact move_onWindow hIdle
  | register _ | unregister | heartbeat | enroll _ | enrollResponse _ | watch _
  | adminRequest _ _ =>
    exact move_stop _

/-- Every step is one of the moves. -/
theorem move_next (c : Connection) (l : EndLabel) : Move c l (c.next l).view := by
  cases l with
  | act action => exact move_act action
  | write => exact move_write
  | receive frame =>
    simp only [next, receive]
    split
    · next hIdle => exact move_dispatch frame hIdle
    · next hBusy => exact .stay _ fun _ _ => hBusy

theorem AllHandles.next {P : Handle → Prop} (hKept : Kept P) (hAll : c.AllHandles P)
    (l : EndLabel) (hCall : ∀ i step h, l = .act (.call i step) → c.handles[i]? = some h → P h →
      P (h.step (c.context i h) step).1) : (c.next l).AllHandles P := by
  cases l with
  | act action =>
    apply hAll.act hKept
    intro i step h hAction
    exact hCall i step h (by rw [hAction])
  | write =>
    simp only [Connection.next]
    split
    · next frame sent hWrite =>
      unfold AllHandles
      rw [handles_of_write hWrite]
      exact hAll
    · exact hAll
  | receive frame => exact hAll.receive hKept frame

/-- The calls stand where their streams allow it. -/
theorem proper_next (hAll : c.AllHandles Handle.Proper) (l : EndLabel) :
    (c.next l).AllHandles Handle.Proper :=
  hAll.next Handle.proper_kept l fun i step h _ _ hProper =>
    Handle.proper_took hProper (Handle.took_step (c.context i h) h step)

end

end Connection

/-! ## The table -/

/-- An entry stands for the last stream with its id. -/
def Indexed (ids : List Nat) (table : HashMap Nat Nat) : Prop :=
  ∀ streamId i, table.lookup streamId = some i →
    ids[i]? = some streamId ∧ ∀ j, ids[j]? = some streamId → j ≤ i

namespace Indexed

variable {ids : List Nat} {table : HashMap Nat Nat}

theorem empty (ids : List Nat) : Indexed ids ∅ := by
  intro streamId i hLookup
  simp at hLookup

theorem insert (hIndexed : Indexed ids table) (streamId : Nat) :
    Indexed (ids ++ [streamId]) (table.insert streamId ids.length) := by
  intro other i hLookup
  rw [AList.lookup_insert_eq_ite] at hLookup
  split_ifs at hLookup with hEq
  · -- the new stream is the last of all
    cases hLookup
    refine ⟨by simp [hEq], fun j hGet => ?_⟩
    have hLt := (List.getElem?_eq_some_iff.mp hGet).1
    rw [List.length_append, List.length_singleton] at hLt
    omega
  · obtain ⟨hGet, hLast⟩ := hIndexed other i hLookup
    refine ⟨List.getElem?_append_left (List.getElem?_eq_some_iff.mp hGet).1 ▸ hGet, ?_⟩
    intro j hOther
    rw [List.getElem?_append] at hOther
    split_ifs at hOther with hLt
    · exact hLast j hOther
    · have hNew := List.mem_singleton.mp (List.mem_of_getElem? hOther)
      exact absurd hNew hEq

theorem erase (hIndexed : Indexed ids table) (streamId : Nat) :
    Indexed ids (table.erase streamId) := by
  intro other i hLookup
  exact hIndexed other i (AList.lookup_of_erase hLookup).2

end Indexed

theorem map_set_eq {hs : List Handle} {i : Nat} {h h' : Handle} (hGet : hs[i]? = some h)
    {α : Type*} (f : Handle → α) (hSame : f h' = f h) : (hs.set i h').map f = hs.map f := by
  obtain ⟨hLt, rfl⟩ := List.getElem?_eq_some_iff.mp hGet
  rw [List.map_set, hSame, ← List.map_set, List.set_getElem_self]

theorem get_of_set {hs : List Handle} {i k : Nat} {h g : Handle}
    (hGet : (hs.set i h)[k]? = some g) : (k = i ∧ g = h) ∨ (k ≠ i ∧ hs[k]? = some g) := by
  rw [List.getElem?_set] at hGet
  split_ifs at hGet with hEq hLt
  · exact Or.inl ⟨hEq.symm, (Option.some.inj hGet).symm⟩
  · exact Or.inr ⟨Ne.symm hEq, hGet⟩

theorem get_of_append {hs : List Handle} {k : Nat} {h g : Handle}
    (hGet : (hs ++ [h])[k]? = some g) : (k = hs.length ∧ g = h) ∨ hs[k]? = some g := by
  rw [List.getElem?_append] at hGet
  split_ifs at hGet with hLt
  · exact Or.inr hGet
  · obtain ⟨hLast, hEq⟩ := List.getElem?_eq_some_iff.mp hGet
    rw [List.length_singleton] at hLast
    refine Or.inl ⟨by omega, ?_⟩
    rw [← hEq]
    exact List.mem_singleton.mp (List.getElem_mem hLast)

theorem Stream.grant_eq {s s' : Stream} {credit : Nat} (hGrant : s.grant credit = some s') :
    s' = { s with peerCredit := s.peerCredit + credit } := by
  unfold Stream.grant at hGrant
  split_ifs at hGrant
  exact (Option.some.inj hGrant).symm

/-- The stream that the reader task is busy with. -/
def Reader.stream : Reader → Option Nat
  | .delivering i _ | .closing i | .accepting i => some i
  | _ => none

/-- What the streams, the table and the reader agree on in every state. -/
structure View.Inv (v : View) : Prop where
  indexed : Indexed (v.handles.map Handle.id) v.table
  reader : ∀ i, v.reader.stream = some i → i < v.handles.length
  proper : ∀ h ∈ v.handles, h.Proper
  /-- The queue is closed by an end that is dropped or has failed. -/
  queue : v.outboundClosed = true → v.dead = true ∨ v.reader = .stopped

namespace Connection

variable {c : Connection} {l : EndLabel} {v : View}

theorem indexed_set {table : HashMap Nat Nat} (hIndexed : Indexed (c.handles.map Handle.id) table)
    {i : Nat} {h h' : Handle} (hGet : c.handles[i]? = some h) (hId : h'.id = h.id) :
    Indexed ((c.handles.set i h').map Handle.id) table := by
  rw [map_set_eq hGet Handle.id hId]
  exact hIndexed

theorem indexed_new (hIndexed : Indexed (c.handles.map Handle.id) c.table) (streamId : Nat)
    (call : Call) : Indexed ((c.handles ++ [newHandle streamId call]).map Handle.id)
      (c.table.insert streamId c.handles.length) := by
  have hInsert := hIndexed.insert streamId
  rw [List.length_map] at hInsert
  rw [List.map_append]
  exact hInsert

theorem indexed_after {ids : List Nat} {table : HashMap Nat Nat} (hIndexed : Indexed ids table) :
    Indexed ids (c.tableAfter table) := by
  unfold tableAfter
  split_ifs
  · exact hIndexed
  · exact .empty ids

theorem Move.indexed (hMove : Move c l v) (hInv : c.view.Inv) :
    Indexed (v.handles.map Handle.id) v.table := by
  have hIndexed : Indexed (c.handles.map Handle.id) c.table := hInv.indexed
  cases hMove with
  | @call i h step hGet =>
    exact indexed_set hIndexed hGet (Handle.took_same
      (hInv.proper h (List.mem_of_getElem? hGet)) (Handle.took_step _ h step)).1.id_eq
  | opens | inbound => exact indexed_new hIndexed _ _
  | collides => exact indexed_after (indexed_new hIndexed _ _)
  | announces hGet | cancels hGet | accepts hGet => exact indexed_set hIndexed hGet rfl
  | unannounced hGet => exact indexed_set (hIndexed.erase _) hGet rfl
  | fails => exact indexed_after hIndexed
  | closes _ hLookup => exact indexed_set hIndexed (lookup_eq_some hLookup).2 rfl
  | window _ hLookup hGrant =>
    refine indexed_set hIndexed (lookup_eq_some hLookup).2 ?_
    rw [Stream.grant_eq hGrant]
    rfl
  | tearsDown _ _ _ _ hLookup =>
    exact indexed_set (hIndexed.erase _) (lookup_eq_some hLookup).2 rfl
  | passesOver => exact hIndexed.erase _
  | pushes _ hGet => exact indexed_set hIndexed hGet rfl
  | closed =>
    dsimp only
    split_ifs
    · exact hIndexed.erase _
    · exact hIndexed
  | _ => exact hIndexed

theorem Move.mode_eq (hMove : Move c l v) : v.mode = c.mode := by
  cases hMove <;> rfl

/-- Streams are reset by a relay only. -/
theorem Move.reset_eq (hMove : Move c l v) (hInv : c.view.Inv) (hMode : c.mode = .nodeToNode)
    (hReset : ∀ h ∈ c.handles, h.stream.reset = false) :
    ∀ h ∈ v.handles, h.stream.reset = false := by
  have hSet {i : Nat} {h h' : Handle} (hAt : c.handles[i]? = some h)
      (hSame : h'.stream.reset = h.stream.reset) :
      ∀ g ∈ c.handles.set i h', g.stream.reset = false := by
    intro g hMem
    rcases List.mem_or_eq_of_mem_set hMem with hOld | rfl
    · exact hReset g hOld
    · exact hSame.trans (hReset h (List.mem_of_getElem? hAt))
  have hNew (id : Nat) (call : Call) : ∀ g ∈ c.handles ++ [newHandle id call],
      g.stream.reset = false := by
    intro g hMem
    rcases List.mem_append.mp hMem with hOld | hLast
    · exact hReset g hOld
    · rw [List.mem_singleton.mp hLast]
      rfl
  cases hMove with
  | @call i h step hAt =>
    exact hSet hAt (Handle.took_same (hInv.proper h (List.mem_of_getElem? hAt))
      (Handle.took_step (c.context i h) h step)).1.reset_eq
  | announces hAt | unannounced hAt | cancels hAt | accepts hAt | pushes _ hAt =>
    exact hSet hAt rfl
  | opens | collides | inbound => exact hNew _ _
  | closes _ hLookup => exact hSet (lookup_eq_some hLookup).2 rfl
  | window _ hLookup hGrant =>
    refine hSet (lookup_eq_some hLookup).2 ?_
    rw [Stream.grant_eq hGrant]
  | tearsDown _ _ hRelay => simp [hMode] at hRelay
  | _ => exact hReset

/-- No stream is taken away. -/
theorem Move.length_le (hMove : Move c l v) : c.handles.length ≤ v.handles.length := by
  cases hMove <;> simp

theorem Move.reader_lt (hMove : Move c l v) (hInv : c.view.Inv) (i : Nat)
    (hAt : v.reader.stream = some i) : i < v.handles.length := by
  have hOld (hSame : c.reader.stream = some i) : i < v.handles.length :=
    lt_of_lt_of_le (hInv.reader i hSame) hMove.length_le
  have hFound {streamId k : Nat} {h : Handle} (hLookup : c.lookup streamId = some (k, h)) :
      k < c.handles.length :=
    (List.getElem?_eq_some_iff.mp (lookup_eq_some hLookup).2).1
  cases hMove with
  | collides streamId call reader hTaken hReader =>
    rcases hReader with rfl | rfl
    · exact hOld hAt
    · simp [Reader.stream] at hAt
  | fails reader closed hReader =>
    rcases hReader with rfl | rfl
    · exact hOld hAt
    · simp [Reader.stream] at hAt
  | data payload _ hLookup =>
    rw [← Option.some.inj hAt]
    exact hFound hLookup
  | closes _ hLookup =>
    rw [← Option.some.inj hAt, List.length_set]
    exact hFound hLookup
  | inbound =>
    rw [← Option.some.inj hAt, List.length_append]
    exact Nat.lt_succ_self _
  | quits | forwards | pushes | closed | resumes => simp [Reader.stream] at hAt
  | _ => exact hOld hAt

theorem Move.queue (hMove : Move c l v) (hInv : c.view.Inv) (hClosed : v.outboundClosed = true) :
    v.dead = true ∨ v.reader = .stopped := by
  have hOld : c.outboundClosed = true → c.dead = true ∨ c.reader = .stopped := hInv.queue
  cases hMove with
  | collides | fails => exact Or.inl rfl
  | quits => exact Or.inr rfl
  | data _ hIdle | closes hIdle | inbound hIdle | forwards _ hIdle =>
    exact Or.inl ((hOld hClosed).resolve_right (by simp [hIdle]))
  | pushes hReader | closed hReader =>
    exact Or.inl ((hOld hClosed).resolve_right (by simp [hReader]))
  | resumes hReader =>
    refine Or.inl ((hOld hClosed).resolve_right ?_)
    rcases hReader with ⟨i, hReader⟩ | ⟨frame, lost, hReader⟩ <;> simp [hReader]
  | _ => exact hOld hClosed

theorem inv_next (hInv : c.view.Inv) (l : EndLabel) : (c.next l).view.Inv where
  indexed := (move_next c l).indexed hInv
  reader := (move_next c l).reader_lt hInv
  proper := proper_next hInv.proper l
  queue := (move_next c l).queue hInv

/-- The stream of an entry. -/
theorem get_of_entry (hInv : c.view.Inv) {streamId i : Nat}
    (hEntry : c.table.lookup streamId = some i) :
    ∃ h, c.handles[i]? = some h ∧ h.id = streamId := by
  have hId : (c.handles.map Handle.id)[i]? = some streamId := (hInv.indexed streamId i hEntry).1
  rw [List.getElem?_map] at hId
  exact Option.map_eq_some_iff.mp hId

theorem Spawned.inv (hSpawned : c.Spawned) : c.view.Inv := by
  rcases hSpawned with ⟨role, rfl⟩ | rfl
  · exact ⟨.empty _, by simp [spawn, Reader.stream], by simp [spawn], by simp [spawn]⟩
  · exact ⟨.empty _, by simp [spawnRelayLink, Reader.stream], by simp [spawnRelayLink],
      by simp [spawnRelayLink]⟩

/-- A connection that is live after a step was so before it. -/
theorem Move.live (hMove : Move c l v) (hDead : v.dead = false) (hReader : v.reader ≠ .stopped) :
    c.Live := by
  cases hMove with
  | collides | fails => cases hDead
  | quits => exact absurd rfl hReader
  | data _ hIdle | closes hIdle | inbound hIdle | forwards _ hIdle =>
    exact ⟨hDead, by simp [hIdle]⟩
  | pushes hAt | closed hAt => exact ⟨hDead, by simp [hAt]⟩
  | resumes hAt =>
    refine ⟨hDead, ?_⟩
    rcases hAt with ⟨i, hAt⟩ | ⟨frame, lost, hAt⟩ <;> simp [hAt]
  | _ => exact ⟨hDead, hReader⟩

end Connection

/-! ## Live connections -/

/-- Stream `i` has its entry; without one it is closed on both sides, or torn down by the
relay. -/
def Handle.Listed (table : HashMap Nat Nat) (i : Nat) (h : Handle) : Prop :=
  table.lookup h.id = some i ∨ (h.stream.finSent = true ∧ h.stream.peerFin = true) ∨
    h.stream.reset = true

/-- Nothing of what closes a stream is taken back. -/
theorem Handle.Listed.mono {table : HashMap Nat Nat} {i : Nat} {h h' : Handle}
    (hListed : h.Listed table i) (hId : h'.id = h.id)
    (hFin : h.stream.finSent = true → h'.stream.finSent = true)
    (hPeer : h.stream.peerFin = true → h'.stream.peerFin = true)
    (hReset : h.stream.reset = true → h'.stream.reset = true) : h'.Listed table i := by
  unfold Handle.Listed
  rw [hId]
  exact hListed.imp_right (Or.imp (And.imp hFin hPeer) hReset)

/-- What holds of the entries as long as a connection is live. -/
structure View.LiveInv (v : View) : Prop where
  listed : ∀ i h, v.handles[i]? = some h → Handle.Listed v.table i h
  delivering : ∀ i payload, v.reader = .delivering i payload →
    ∃ h, v.handles[i]? = some h ∧ v.table.lookup h.id = some i ∧ h.stream.peerFin = false
  closing : ∀ i, v.reader = .closing i →
    ∃ h, v.handles[i]? = some h ∧ v.table.lookup h.id = some i ∧ h.stream.peerFin = true

namespace Connection

variable {c : Connection} {l : EndLabel} {v : View}

/-- A live connection has its queue. -/
theorem queue_ne_closed (hInv : c.view.Inv) (hLive : c.Live) : c.queue ≠ .closed := by
  have hOpen : c.outboundClosed = false := by
    by_contra hClosed
    rcases hInv.queue (by simpa using hClosed) with hDead | hStopped
    · exact absurd (hLive.1.symm.trans hDead) (by decide)
    · exact hLive.2 hStopped
  unfold queue
  rw [hOpen, if_neg (by decide)]
  split_ifs <;> simp

theorem listed_erase {streamId k : Nat} {g : Handle} (hListed : g.Listed c.table k)
    (hOwn : g.id = streamId → c.table.lookup streamId = some k →
      (g.stream.finSent = true ∧ g.stream.peerFin = true) ∨ g.stream.reset = true) :
    g.Listed (c.table.erase streamId) k := by
  rcases hListed with hEntry | hDone
  · by_cases hId : g.id = streamId
    · exact Or.inr (hOwn hId (hId ▸ hEntry))
    · refine Or.inl ?_
      rw [AList.lookup_erase_eq_ite, if_neg hId, hEntry]
  · exact Or.inr hDone

theorem Move.listed (hMove : Move c l v) (hInv : c.view.Inv) (hLiveInv : c.view.LiveInv)
    (hDead : v.dead = false) (hStopped : v.reader ≠ .stopped) (k : Nat) (g : Handle)
    (hGet : v.handles[k]? = some g) : g.Listed v.table k := by
  have hOld (k : Nat) (g : Handle) (hGet : c.handles[k]? = some g) : g.Listed c.table k :=
    hLiveInv.listed k g hGet
  have hSame {i : Nat} {h h' : Handle} (hGet : (c.handles.set i h')[k]? = some g)
      (hAt : c.handles[i]? = some h) (hId : h'.id = h.id)
      (hFin : h.stream.finSent = true → h'.stream.finSent = true)
      (hPeer : h.stream.peerFin = true → h'.stream.peerFin = true)
      (hReset : h.stream.reset = true → h'.stream.reset = true) : g.Listed c.table k := by
    rcases get_of_set hGet with ⟨rfl, rfl⟩ | ⟨-, hOther⟩
    · exact (hOld k h hAt).mono hId hFin hPeer hReset
    · exact hOld k g hOther
  have hNew {id : Nat} {call : Call} (hFresh : id ∉ c.table)
      (hGet : (c.handles ++ [newHandle id call])[k]? = some g) :
      g.Listed (c.table.insert id c.handles.length) k := by
    rcases get_of_append hGet with ⟨rfl, rfl⟩ | hOther
    · exact Or.inl (AList.lookup_insert _)
    · refine (hOld k g hOther).imp_left fun hEntry => ?_
      rw [AList.lookup_insert_eq_ite, if_neg, hEntry]
      rintro rfl
      exact hFresh (AList.mem_iff_lookup.mpr ⟨k, hEntry⟩)
  have hLive := hMove.live hDead hStopped
  cases hMove with
  | stay | controls | sends | data | forwards | resumes => exact hOld k g hGet
  | @call i h step hAt =>
    have hTook := Handle.took_step (c.context i h) h step
    have hProper := hInv.proper h (List.mem_of_getElem? hAt)
    have hKeep := (Handle.took_same hProper hTook).1
    exact hSame hGet hAt hKeep.id_eq (Handle.took_stays_finSent hTook hProper)
      hKeep.peerFin_eq.trans hKeep.reset_eq.trans
  | announces hAt | cancels hAt | accepts hAt | pushes _ hAt =>
    exact hSame hGet hAt rfl id id id
  | unannounced _ _ hQueue => exact absurd hQueue (queue_ne_closed hInv hLive)
  | opens _ _ hFresh | inbound _ hFresh => exact hNew hFresh hGet
  | collides | fails => cases hDead
  | quits => exact absurd rfl hStopped
  | closes _ hLookup => exact hSame hGet (lookup_eq_some hLookup).2 rfl id (fun _ => rfl) id
  | window _ hLookup hGrant =>
    rw [Stream.grant_eq hGrant] at hGet
    exact hSame hGet (lookup_eq_some hLookup).2 rfl id id id
  | @tearsDown streamId i h frame detail _ _ _ hLookup =>
    obtain ⟨hEntry, hAt⟩ := lookup_eq_some hLookup
    refine listed_erase (hSame hGet hAt rfl id id fun _ => rfl) fun _ hOwn => ?_
    cases hEntry.symm.trans hOwn
    rcases get_of_set hGet with ⟨-, rfl⟩ | ⟨hNe, -⟩
    · exact Or.inr rfl
    · exact absurd rfl hNe
  | passesOver _ _ hLookup =>
    refine listed_erase (hOld k g hGet) fun _ hOwn => ?_
    rw [lookup, hOwn, Option.bind_some, show c.handles[k]? = some g from hGet] at hLookup
    cases hLookup
  | @closed i h hReader hAt =>
    obtain ⟨own, hOwnAt, hOwn, hPeer⟩ := hLiveInv.closing i hReader
    cases hAt.symm.trans hOwnAt
    dsimp only
    split_ifs with hFin
    · refine listed_erase (hOld k g hGet) fun _ hEntry => ?_
      cases hOwn.symm.trans hEntry
      cases hAt.symm.trans hGet
      exact Or.inl ⟨hFin, hPeer⟩
    · exact hOld k g hGet

theorem get_set_keeps {α : Type*} {f : Handle → α} {i k : Nat} {h h' g : Handle}
    (hAt : c.handles[i]? = some h) (hSame : f h' = f h) (hGet : c.handles[k]? = some g) :
    ∃ g', (c.handles.set i h')[k]? = some g' ∧ f g' = f g := by
  by_cases hEq : i = k
  · subst hEq
    cases hAt.symm.trans hGet
    exact ⟨h', get_setHandle hAt h', hSame⟩
  · exact ⟨g, (List.getElem?_set_ne hEq).trans hGet, rfl⟩

/-- Other tasks leave the entry that the reader is at alone. -/
theorem Move.entry_stays (hMove : Move c l v) (hInv : c.view.Inv) (hLive : c.Live)
    (hReader : v.reader = c.reader) (hDead : v.dead = false) (hBusy : c.reader ≠ .idle) {i : Nat}
    {h : Handle} (hGet : c.handles[i]? = some h) (hEntry : c.table.lookup h.id = some i) :
    ∃ h', v.handles[i]? = some h' ∧ v.table.lookup h'.id = some i ∧
      h'.stream.peerFin = h.stream.peerFin := by
  have hSet {k : Nat} {g g' : Handle} (hAt : c.handles[k]? = some g) (hId : g'.id = g.id)
      (hPeer : g'.stream.peerFin = g.stream.peerFin) :
      ∃ h', (c.handles.set k g')[i]? = some h' ∧ c.table.lookup h'.id = some i ∧
        h'.stream.peerFin = h.stream.peerFin := by
    obtain ⟨h', hGet', hSame⟩ := get_set_keeps (f := fun h => (h.id, h.stream.peerFin)) hAt
      (Prod.ext hId hPeer) hGet
    obtain ⟨hSameId, hSamePeer⟩ := Prod.mk.inj hSame
    exact ⟨h', hGet', hSameId ▸ hEntry, hSamePeer⟩
  cases hMove with
  | stay | controls | sends => exact ⟨h, hGet, hEntry, rfl⟩
  | @call k g step hAt =>
    have hKeep := (Handle.took_same (hInv.proper g (List.mem_of_getElem? hAt))
      (Handle.took_step (c.context k g) g step)).1
    exact hSet hAt hKeep.id_eq hKeep.peerFin_eq
  | announces hAt | cancels hAt | accepts hAt => exact hSet hAt rfl rfl
  | unannounced _ _ hQueue => exact absurd hQueue (queue_ne_closed hInv hLive)
  | opens target _ hFresh =>
    refine ⟨h, ?_, ?_, rfl⟩
    · exact (List.getElem?_append_left (List.getElem?_eq_some_iff.mp hGet).1).trans hGet
    · rw [AList.lookup_insert_eq_ite, if_neg, hEntry]
      intro hId
      exact hFresh (hId ▸ AList.mem_iff_lookup.mpr ⟨i, hEntry⟩)
  | collides | fails => cases hDead
  | quits => exact absurd hReader.symm hLive.2
  | data _ hIdle | closes hIdle | window hIdle | inbound hIdle | tearsDown _ hIdle
  | passesOver hIdle | forwards _ hIdle => exact absurd hIdle hBusy
  | pushes | closed | resumes => exact absurd hReader.symm hBusy

theorem Move.liveInv (hMove : Move c l v) (hInv : c.view.Inv) (hLiveInv : c.view.LiveInv)
    (hDead : v.dead = false) (hStopped : v.reader ≠ .stopped) : v.LiveInv := by
  have hLive := hMove.live hDead hStopped
  have hListed := hMove.listed hInv hLiveInv hDead hStopped
  have hStays := hMove.entry_stays hInv hLive
  -- a reader that is where it was is at the entry where it was
  have hDelivering (hReader : v.reader = c.reader) (i : Nat) (payload : List UInt8)
      (hAt : v.reader = .delivering i payload) :
      ∃ h, v.handles[i]? = some h ∧ v.table.lookup h.id = some i ∧ h.stream.peerFin = false := by
    rw [hReader] at hAt
    obtain ⟨h, hGet, hEntry, hPeer⟩ := hLiveInv.delivering i payload hAt
    obtain ⟨h', hGet', hEntry', hSame⟩ := hStays hReader hDead (by simp [hAt]) hGet hEntry
    exact ⟨h', hGet', hEntry', hSame.trans hPeer⟩
  have hClosing (hReader : v.reader = c.reader) (i : Nat) (hAt : v.reader = .closing i) :
      ∃ h, v.handles[i]? = some h ∧ v.table.lookup h.id = some i ∧ h.stream.peerFin = true := by
    rw [hReader] at hAt
    obtain ⟨h, hGet, hEntry, hPeer⟩ := hLiveInv.closing i hAt
    obtain ⟨h', hGet', hEntry', hSame⟩ := hStays hReader hDead (by simp [hAt]) hGet hEntry
    exact ⟨h', hGet', hEntry', hSame.trans hPeer⟩
  by_cases hReader : v.reader = c.reader
  · exact ⟨hListed, hDelivering hReader, hClosing hReader⟩
  · refine ⟨hListed, ?_, ?_⟩
    · intro i payload hAt
      cases hMove with
      | @data streamId k h _ _ hLookup hOpen =>
        obtain ⟨hEntry, hGet⟩ := lookup_eq_some hLookup
        obtain ⟨own, hOwn, hId⟩ := get_of_entry hInv hEntry
        cases hGet.symm.trans hOwn
        cases hAt
        exact ⟨h, hGet, hId ▸ hEntry, hOpen⟩
      | collides | fails => cases hDead
      | closes | inbound | forwards | pushes | closed | resumes | quits => cases hAt
      | _ => exact absurd rfl hReader
    · intro i hAt
      cases hMove with
      | @closes streamId k h _ hLookup hOpen =>
        obtain ⟨hEntry, hGet⟩ := lookup_eq_some hLookup
        obtain ⟨own, hOwn, hId⟩ := get_of_entry hInv hEntry
        cases hGet.symm.trans hOwn
        cases hAt
        refine ⟨{ h with stream := h.stream.setPeerFin }, get_setHandle hGet _, ?_, rfl⟩
        exact hId ▸ hEntry
      | collides | fails => cases hDead
      | data | inbound | forwards | pushes | closed | resumes | quits => cases hAt
      | _ => exact absurd rfl hReader

theorem Spawned.liveInv (hSpawned : c.Spawned) : c.view.LiveInv := by
  rcases hSpawned with ⟨role, rfl⟩ | rfl
  · exact ⟨by simp [spawn], by simp [spawn], by simp [spawn]⟩
  · exact ⟨by simp [spawnRelayLink], by simp [spawnRelayLink], by simp [spawnRelayLink]⟩

/-! ### Runs with one stream -/

/-- A stream of the peer, accepted. -/
def acceptOne : List EndLabel :=
  [.receive (.opened 1), .act .resume, .act .accept]

/-- The `Close` of the peer. -/
def closeOne : List EndLabel :=
  [.receive (.close 1), .act .resume]

/-- A byte of the peer. -/
def byteOne : List EndLabel :=
  [.receive (.data 1 [7]), .act .resume]

/-- `poll_read` on the first stream, when it finds nothing. -/
def readOne : List EndLabel :=
  [.act (.call 0 (.read 8)), .act (.call 0 .endRead)]

end Connection

end WaitAgent.Mux
