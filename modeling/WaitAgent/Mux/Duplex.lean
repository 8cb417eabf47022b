import WaitAgent.Mux.Connection

/-!
# Two ends of a mux connection

Two connections over an ordered reliable duplex.  Each step belongs to one end; frames are
under way from the time its writer takes them to the time the other reader does.  The first
results are about single handles: what every change to a handle keeps holds of all handles
in every run.
-/

namespace WaitAgent.Mux

open Verified

/-! ## What holds of every handle -/

namespace Connection

/-- `P` holds of every handle. -/
def AllHandles (P : Handle → Prop) (c : Connection) : Prop :=
  ∀ h ∈ c.handles, P h

/-- The calls that a new handle starts with. -/
def NewCall (id : Nat) (call : Call) : Prop :=
  call = .dropped ∨ call = .arriving ∨ ∃ target, call = .opening (openFrame id target)

/-- A property that a new handle has, and that is kept by whatever the connection does to a
handle outside the calls on it. -/
structure Kept (P : Handle → Prop) : Prop where
  new : ∀ id call, NewCall id call → P { stream := { id }, call }
  rest : ∀ h, P h → P { h with call := .idle } ∧ P { h with call := .dropped }
  push : ∀ h payload, P h → P { h with stream := h.stream.push payload }
  setPeerFin : ∀ h, P h → P { h with stream := h.stream.setPeerFin }
  grant : ∀ h credit s, h.stream.grant credit = some s → P h → P { h with stream := s }
  tearDown : ∀ h detail, P h → P { h with stream := h.stream.tearDown detail }

section

variable {P : Handle → Prop} {c : Connection}

theorem AllHandles.get (hAll : c.AllHandles P) {i : Nat} {h : Handle}
    (hGet : c.handles[i]? = some h) : P h :=
  hAll h (List.mem_of_getElem? hGet)

theorem AllHandles.set (hAll : c.AllHandles P) {i : Nat} {h : Handle} (hNew : P h) :
    (c.setHandle i h).AllHandles P := by
  intro other hMem
  rcases List.mem_or_eq_of_mem_set hMem with hOld | rfl
  · exact hAll other hOld
  · exact hNew

theorem AllHandles.insert (hAll : c.AllHandles P) {streamId : Nat} {call : Call}
    (hNew : P { stream := { id := streamId }, call }) :
    (c.insertStream streamId call).AllHandles P := by
  intro other hMem
  rcases List.mem_append.mp hMem with hOld | hLast
  · exact hAll other hOld
  · exact List.mem_singleton.mp hLast ▸ hNew

@[simp] theorem failConnection_handles (reason : String) :
    (c.failConnection reason).handles = c.handles := by
  unfold failConnection
  split_ifs <;> rfl

@[simp] theorem stop_handles (reason : String) : (c.stop reason).handles = c.handles :=
  failConnection_handles reason

theorem AllHandles.stop (hAll : c.AllHandles P) (reason : String) :
    (c.stop reason).AllHandles P := by
  unfold AllHandles
  rw [stop_handles]
  exact hAll

theorem lookup_eq_some {streamId i : Nat} {h : Handle} (hLookup : c.lookup streamId = some (i, h)) :
    c.table.lookup streamId = some i ∧ c.handles[i]? = some h := by
  unfold lookup at hLookup
  obtain ⟨j, hTable, hHandle⟩ := Option.bind_eq_some_iff.mp hLookup
  obtain ⟨other, hGet, hPair⟩ := Option.map_eq_some_iff.mp hHandle
  cases hPair
  exact ⟨hTable, hGet⟩

section

variable (hKept : Kept P) (hAll : c.AllHandles P)

include hKept hAll

theorem AllHandles.pushInboundStream (streamId : Nat) :
    (c.pushInboundStream streamId).AllHandles P := by
  have hInsert := hAll.insert (hKept.new streamId .arriving (Or.inr (Or.inl rfl)))
  unfold Connection.pushInboundStream
  extract_lets inserted
  split_ifs
  · exact AllHandles.stop hInsert _
  · exact hInsert

/-- The arms of the reader keep what every handle keeps. -/
theorem AllHandles.dispatch (frame : Frame) : (c.dispatch frame).AllHandles P := by
  have hTear (streamId : Nat) (detail : Option MuxResetError) :
      (c.teardownStream streamId detail).AllHandles P := by
    unfold teardownStream
    split
    · exact hAll
    · next i h hLookup =>
      exact hAll.set (hKept.tearDown h detail (hAll.get (lookup_eq_some hLookup).2))
  have hForward (sent : Frame) (missing lost : String) :
      (c.forwardControl sent missing lost).AllHandles P := by
    unfold forwardControl
    split
    · exact hAll.stop _
    all_goals exact hAll
  cases frame with
  | opened streamId =>
    simp only [Connection.dispatch]
    split_ifs
    · exact hAll.stop _
    · exact hAll.stop _
    · exact hAll.pushInboundStream hKept streamId
  | openStream streamId target =>
    simp only [Connection.dispatch]
    split_ifs
    · exact hAll.stop _
    · exact hAll.stop _
    · exact hAll.pushInboundStream hKept streamId
  | closeStream streamId =>
    simp only [Connection.dispatch]
    split_ifs
    · exact hAll.stop _
    · exact hTear streamId none
  | error streamId code message =>
    simp only [Connection.dispatch]
    split_ifs
    · exact hAll.stop _
    · exact hForward _ _ _
    · exact hTear streamId _
  | presence nodeId online =>
    simp only [Connection.dispatch]
    split_ifs
    · exact hAll.stop _
    · exact hForward _ _ _
  | adminResponse seq body =>
    simp only [Connection.dispatch]
    split_ifs
    · exact hAll.stop _
    · exact hForward _ _ _
  | data streamId payload =>
    simp only [Connection.dispatch, onData]
    split
    · exact hAll.stop _
    · split_ifs
      · exact hAll.stop _
      · exact hAll
  | close streamId =>
    simp only [Connection.dispatch, onClose]
    split
    · exact hAll.stop _
    · next i h hLookup =>
      split_ifs
      · exact hAll.stop _
      · exact hAll.set (hKept.setPeerFin h (hAll.get (lookup_eq_some hLookup).2))
  | window streamId credit =>
    simp only [Connection.dispatch, onWindow]
    split
    · exact hAll.stop _
    · next i h hLookup =>
      split
      · next s hGrant =>
        exact hAll.set (hKept.grant h credit s hGrant (hAll.get (lookup_eq_some hLookup).2))
      · exact hAll.stop _
  | register _ | unregister | heartbeat | enroll _ | enrollResponse _ | watch _
  | adminRequest _ _ =>
    exact hAll.stop _

theorem AllHandles.receive (frame : Frame) : (c.receive frame).AllHandles P := by
  unfold Connection.receive
  split
  · exact hAll.dispatch hKept frame
  · exact hAll

theorem AllHandles.resume : c.resume.AllHandles P := by
  unfold Connection.resume
  split
  · split
    · next h hGet =>
      split_ifs
      · exact hAll.stop _
      · exact hAll.set (hKept.push h _ (hAll.get hGet))
      · exact hAll
    · exact hAll
  · split
    · split_ifs <;> exact hAll
    · exact hAll
  · split_ifs
    · exact hAll.stop _
    · exact hAll
    · exact hAll
  · split
    · exact hAll
    all_goals exact hAll.stop _
  all_goals exact hAll

theorem AllHandles.openStream (target : Option String) :
    (c.openStream target).AllHandles P := by
  unfold Connection.openStream
  extract_lets streamId advanced
  split_ifs
  · have hInsert : (advanced.insertStream streamId .dropped).AllHandles P :=
      AllHandles.insert hAll (hKept.new streamId .dropped (Or.inl rfl))
    unfold AllHandles
    rw [failConnection_handles]
    exact hInsert
  · exact AllHandles.insert hAll (hKept.new streamId _ (Or.inr (Or.inr ⟨target, rfl⟩)))
  · exact hAll

/-- What the step of a call keeps of its handle, every action keeps of all. -/
theorem AllHandles.act (a : Action)
    (hCall : ∀ i step h, a = .call i step → c.handles[i]? = some h → P h →
      P (h.step (c.context i h) step).1) : (c.act a).AllHandles P := by
  cases a with
  | call i step =>
    simp only [Connection.act, Connection.call]
    split
    · exact hAll
    · next h hGet => exact hAll.set (hCall i step h rfl hGet (hAll.get hGet))
  | openStream target => exact hAll.openStream hKept target
  | sendOpen i =>
    simp only [Connection.act, sendOpen]
    split
    · next h hGet =>
      split
      · split
        · exact hAll.set (hKept.rest h (hAll.get hGet)).1
        · exact hAll
        · exact hAll.set (hKept.rest h (hAll.get hGet)).2
      · exact hAll
    · exact hAll
  | cancelOpen i =>
    simp only [Connection.act, cancelOpen]
    split
    · next h hGet =>
      split
      · exact hAll.set (hKept.rest h (hAll.get hGet)).2
      · exact hAll
    · exact hAll
  | accept =>
    simp only [Connection.act, accept]
    split
    · split
      · next h hGet =>
        split
        · exact hAll.set (hKept.rest h (hAll.get hGet)).1
        · exact hAll
      · exact hAll
    · exact hAll
  | sendControl frame =>
    simp only [Connection.act, sendControl]
    split_ifs <;> exact hAll
  | dropControl | dropConnection => exact hAll
  | resume => exact hAll.resume hKept
  | readFails reason =>
    simp only [Connection.act]
    split_ifs
    · exact hAll.stop _
    · exact hAll
  | writeFails reason =>
    intro h hMem
    rw [Connection.act, failConnection_handles] at hMem
    exact hAll h hMem
  | stopReader | stopWriter =>
    simp only [Connection.act]
    split_ifs <;> exact hAll

end

theorem handles_of_write {frame : Frame} {c' : Connection} (h : c.write = some (frame, c')) :
    c'.handles = c.handles := by
  unfold write at h
  split at h
  · split_ifs at h
    cases h
    rfl
  · cases h

end

end Connection

/-! ## The duplex -/

inductive Side where
  | client
  | server
  deriving DecidableEq

def Side.other : Side → Side
  | client => server
  | server => client

def Side.role : Side → MuxRole
  | client => .client
  | server => .server

@[simp] theorem Side.other_other (side : Side) : side.other.other = side := by
  cases side <;> rfl

theorem Side.other_ne (side : Side) : side.other ≠ side := by
  cases side <;> decide

theorem Side.eq_or_other (side other : Side) : other = side ∨ other = side.other := by
  cases side <;> cases other <;> decide

structure Duplex where
  ends : Side → Connection
  /-- The frames under way from a side. -/
  wire : Side → List Frame

inductive DuplexLabel where
  | act (side : Side) (action : Connection.Action)
  /-- The writer of a side puts a frame on the wire. -/
  | write (side : Side)
  /-- The reader of a side takes a frame from it. -/
  | receive (side : Side)

namespace Duplex

def step (d : Duplex) : DuplexLabel → Duplex
  | .act side action => { d with ends := Function.update d.ends side ((d.ends side).act action) }
  | .write side =>
      match (d.ends side).write with
      | some (frame, c) =>
          { ends := Function.update d.ends side c
            wire := Function.update d.wire side (d.wire side ++ [frame]) }
      | none => d
  | .receive side =>
      match (d.ends side).reader, d.wire side.other with
      | .idle, frame :: rest =>
          { ends := Function.update d.ends side ((d.ends side).receive frame)
            wire := Function.update d.wire side.other rest }
      | _, _ => d

def start : Duplex where
  ends side := .spawn side.role
  wire _ := []

end Duplex

end WaitAgent.Mux
