import WaitAgent.Mux.Stream
import WaitAgent.Verified.HashMap

/-!
# A mux connection

`Connection` is one end of a connection: its streams, the queue of its writer, the table
of its reader, and where each task stands.  A call on a stream is a sequence of steps, one
for each critical section; the reader task stops at its awaits.  Streams are numbered in
the order in which they were made, and one is never taken away, since its owner may hold on
to it after its entry has left the table.

`send().await` on a bounded queue is a step that can be taken once there is room.  After a
failure the loops may go on until they notice it.
-/

namespace WaitAgent.Mux

open Verified

/-! ## Handles -/

/-- Where the call on a stream stands; there is one at a time. -/
inductive Call where
  | idle
  /-- `open_stream` waits to send this frame. -/
  | opening (frame : Frame)
  /-- Made for the peer, and not accepted yet. -/
  | arriving
  /-- `poll_read` has found nothing, or the queue closed, and has yet to look at the flags. -/
  | reading (received : Stream.Received)
  /-- `account_consumed` has yet to queue the grant. -/
  | granting (delta : Nat)
  /-- `poll_write` has passed the flags. -/
  | checked (buf : List UInt8)
  | sending (payload : List UInt8)
  /-- The frame is queued, and the credit not yet taken. -/
  | debiting (n : Nat)
  /-- `poll_shutdown` has passed its checks. -/
  | closing
  /-- The `Close` is queued, and `fin_sent` not yet set. -/
  | finishing
  | dropped
  deriving DecidableEq

structure Handle where
  stream : Stream
  call : Call := .idle
  /-- All that reads have returned. -/
  received : List UInt8 := []
  /-- A read has returned nothing. -/
  ended : Bool := false
  /-- All that writes have accepted. -/
  wrote : List UInt8 := []
  deriving DecidableEq

/-- What a call meets on its connection. -/
structure Context where
  link : Link
  /-- The table or the reader task holds the sending half. -/
  hasSender : Bool
  /-- What the outbound queue would say. -/
  queue : TrySend

inductive CallStep where
  | read (room : Nat)
  | endRead
  | grant
  | write (buf : List UInt8)
  | plan
  | send
  | debit
  | shutdown
  | sendClose
  | finish
  | drop

namespace Handle

def id (h : Handle) : Nat := h.stream.id

def returnRead (h : Handle) : ReadResult → Handle
  | .ready bytes =>
      { h with call := .idle, received := h.received ++ bytes, ended := h.ended || bytes.isEmpty }
  | .failed _ | .pending => { h with call := .idle }

/-- `poll_read`, up to the grant or to the look at the flags. -/
def read (ctx : Context) (h : Handle) (room : Nat) : Handle :=
  match h.stream.startRead room ctx.hasSender with
  | (.copied bytes delta, s) =>
      { h with
        stream := s
        call := if delta = 0 then .idle else .granting delta
        received := h.received ++ bytes
        ended := h.ended || (room ≠ 0 && bytes.isEmpty) }
  | (received, s) => { h with stream := s, call := .reading received }

/-- One step of a call, and the frame that it queues. -/
def step (ctx : Context) (h : Handle) : CallStep → Handle × Option Frame
  | .read room =>
      match h.call with
      | .idle => (h.read ctx room, none)
      | _ => (h, none)
  | .endRead =>
      match h.call with
      | .reading received => (h.returnRead (h.stream.endRead ctx.link received), none)
      | _ => (h, none)
  | .grant =>
      match h.call with
      | .granting delta =>
          match ctx.queue with
          | .queued => ({ h with call := .idle }, some (.window h.id delta))
          | .full => ({ h with call := .idle, stream := h.stream.deferGrant delta }, none)
          | .closed => ({ h with call := .idle }, none)
      | _ => (h, none)
  | .write buf =>
      match h.call with
      | .idle =>
          if buf = [] then (h, none)
          else
            match h.stream.checkWrite ctx.link with
            | some _ => (h, none)
            | none => ({ h with call := .checked buf }, none)
      | _ => (h, none)
  | .plan =>
      match h.call with
      | .checked buf =>
          match h.stream.allowance buf with
          | .error _ => ({ h with call := .idle }, none)
          | .ok n =>
              if n = 0 then ({ h with call := .idle }, none)
              else ({ h with call := .sending (buf.take n) }, none)
      | _ => (h, none)
  | .send =>
      match h.call with
      | .sending payload =>
          match ctx.queue with
          | .queued =>
              ({ h with call := .debiting payload.length, wrote := h.wrote ++ payload },
                some (.data h.id payload))
          | .full | .closed => ({ h with call := .idle }, none)
      | _ => (h, none)
  | .debit =>
      match h.call with
      | .debiting n => ({ h with call := .idle, stream := h.stream.debit n }, none)
      | _ => (h, none)
  | .shutdown =>
      match h.call with
      | .idle =>
          if h.stream.finSent || ctx.link.dead then (h, none)
          else ({ h with call := .closing }, none)
      | _ => (h, none)
  | .sendClose =>
      match h.call with
      | .closing =>
          match ctx.queue with
          | .queued => ({ h with call := .finishing }, some (.close h.id))
          | .full => ({ h with call := .idle }, none)
          | .closed => ({ h with call := .finishing }, none)
      | _ => (h, none)
  | .finish =>
      match h.call with
      | .finishing => ({ h with call := .idle, stream := h.stream.finish }, none)
      | _ => (h, none)
  | .drop =>
      match h.call with
      | .idle => ({ h with call := .dropped }, none)
      | _ => (h, none)

end Handle

/-! ## Connections -/

inductive MuxRole where
  | client
  | server
  deriving DecidableEq

inductive Mode where
  | nodeToNode
  | relayLink
  deriving DecidableEq

/-- The client has the odd ids, the server the even ones. -/
def ownsStreamId (role : MuxRole) (streamId : Nat) : Bool :=
  (role = .client) = (streamId % 2 = 1)

def firstStreamId : MuxRole → Nat
  | .client => 1
  | .server => 2

/-- Where the reader task stands. -/
inductive Reader where
  /-- It reads the next frame. -/
  | idle
  /-- A chunk waits for room in the queue of stream `i`. -/
  | delivering (i : Nat) (payload : List UInt8)
  /-- The peer has closed stream `i`. -/
  | closing (i : Nat)
  /-- Stream `i` waits for room in the accept queue. -/
  | accepting (i : Nat)
  /-- A frame waits for the control channel, and what is said if nobody receives it. -/
  | forwarding (frame : Frame) (lost : String)
  | stopped
  deriving DecidableEq

/-- The channel for the frames of the relay client. -/
inductive Control where
  | absent
  | receiving (frames : List Frame)
  | dropped
  deriving DecidableEq

structure Connection where
  role : MuxRole
  mode : Mode
  handles : List Handle := []
  /-- Stream ids and the streams that they stand for. -/
  table : HashMap Nat Nat := ∅
  outbound : List Frame := []
  /-- The writer task has ended. -/
  outboundClosed : Bool := false
  dead : Bool := false
  closeReason : Option String := none
  /-- A counter of 32 bits. -/
  nextLocalId : Nat
  reader : Reader := .idle
  accepts : List Nat := []
  acceptDropped : Bool := false
  control : Control := .absent

namespace Connection

def spawn (role : MuxRole) : Connection :=
  { role, mode := .nodeToNode, nextLocalId := firstStreamId role }

def spawnRelayLink : Connection :=
  { role := .client, mode := .relayLink, nextLocalId := firstStreamId .client,
    control := .receiving [] }

def link (c : Connection) : Link :=
  { dead := c.dead, closeReason := c.closeReason }

def queue (c : Connection) : TrySend :=
  if c.outboundClosed then .closed
  else if c.outbound.length < outboundQueue then .queued
  else .full

/-- The reader task works on stream `i`. -/
def readerHolds (c : Connection) (i : Nat) : Bool :=
  match c.reader with
  | .delivering j _ | .closing j => i = j
  | _ => false

def context (c : Connection) (i : Nat) (h : Handle) : Context :=
  { link := c.link
    hasSender := c.table.lookup h.id = some i || c.readerHolds i
    queue := c.queue }

@[simps]
def setHandle (c : Connection) (i : Nat) (h : Handle) : Connection :=
  { c with handles := c.handles.set i h }

@[simps]
def enqueue (c : Connection) (frames : List Frame) : Connection :=
  { c with outbound := c.outbound ++ frames }

@[simps]
def setReader (c : Connection) (reader : Reader) : Connection :=
  { c with reader }

@[simps]
def removeEntry (c : Connection) (streamId : Nat) : Connection :=
  { c with table := c.table.erase streamId }

/-- The first failure counts; the table is emptied. -/
def failConnection (c : Connection) (reason : String) : Connection :=
  if c.dead then c else { c with dead := true, closeReason := some reason, table := ∅ }

/-- The reader task fails the connection and returns. -/
def stop (c : Connection) (reason : String) : Connection :=
  (c.failConnection reason).setReader .stopped

/-! ### The owners of streams -/

/-- One step of the call on stream `i`. -/
def call (c : Connection) (i : Nat) (step : CallStep) : Connection :=
  match c.handles[i]? with
  | none => c
  | some h =>
      let (h', frame) := h.step (c.context i h) step
      (c.setHandle i h').enqueue frame.toList

/-- A new stream with its entry. -/
@[simps]
def insertStream (c : Connection) (streamId : Nat) (call : Call) : Connection :=
  { c with
    handles := c.handles ++ [{ stream := { id := streamId }, call }]
    table := c.table.insert streamId c.handles.length }

/-- Streams through a relay need a relay link and a node id that fits. -/
def mayOpen (c : Connection) : Option String → Bool
  | none => true
  | some node => c.mode = .relayLink && Frame.textLen node ≤ maxNodeIdLen

def openFrame (streamId : Nat) : Option String → Frame
  | none => .opened streamId
  | some node => .openStream streamId node

/-- `open_stream`, and `open_stream_to` for a target, behind the look at `dead` and up to the
await.  The connection may have failed since that look. -/
def openStream (c : Connection) (target : Option String) : Connection :=
  if c.mayOpen target then
    let streamId := c.nextLocalId
    let advanced := { c with nextLocalId := (streamId + 2) % 2 ^ 32 }
    if streamId ∈ c.table then
      (advanced.insertStream streamId .dropped).failConnection
        ("stream id " ++ toString streamId ++ " is still live")
    else advanced.insertStream streamId (.opening (openFrame streamId target))
  else c

/-- The frame of a new stream finds room, or nobody takes it any more. -/
def sendOpen (c : Connection) (i : Nat) : Connection :=
  match c.handles[i]? with
  | some h =>
      match h.call with
      | .opening frame =>
          match c.queue with
          | .queued => (c.setHandle i { h with call := .idle }).enqueue [frame]
          | .full => c
          | .closed => (c.setHandle i { h with call := .dropped }).removeEntry h.id
      | _ => c
  | none => c

/-- The call of `open_stream` is given up while it waits. -/
def cancelOpen (c : Connection) (i : Nat) : Connection :=
  match c.handles[i]? with
  | some h =>
      match h.call with
      | .opening _ => c.setHandle i { h with call := .dropped }
      | _ => c
  | none => c

def accept (c : Connection) : Connection :=
  match c.accepts with
  | i :: rest =>
      match c.handles[i]? with
      | some h =>
          match h.call with
          | .arriving => { c.setHandle i { h with call := .idle } with accepts := rest }
          | _ => c
      | none => c
  | [] => c

/-- The frames that `send_control` lets through. -/
def mayControl : Frame → Bool
  | .register nodeId | .watch nodeId => Frame.textLen nodeId ≤ maxNodeIdLen
  | .unregister | .heartbeat | .adminRequest _ _ => true
  | _ => false

def sendControl (c : Connection) (frame : Frame) : Connection :=
  if c.mode = .relayLink ∧ mayControl frame ∧ c.queue = .queued then
    c.enqueue [frame]
  else c

/-- Both tasks are aborted. -/
def dropConnection (c : Connection) : Connection :=
  { c with reader := .stopped, outboundClosed := true, acceptDropped := true }

/-! ### The reader task -/

def unknownStream (streamId : Nat) : String :=
  "frame for unknown or fully closed stream " ++ toString streamId

def notRelay : String := "relay control frame on a node-to-node mux connection"

/-- A stream opened by the peer. -/
def pushInboundStream (c : Connection) (streamId : Nat) : Connection :=
  let inserted := c.insertStream streamId .arriving
  if streamId ∈ c.table then
    inserted.stop ("peer reopened live stream " ++ toString streamId)
  else inserted.setReader (.accepting c.handles.length)

/-- Entry and stream of an id; without one the connection fails. -/
def lookup (c : Connection) (streamId : Nat) : Option (Nat × Handle) :=
  (c.table.lookup streamId).bind fun i => (c.handles[i]?).map fun h => (i, h)

def onData (c : Connection) (streamId : Nat) (payload : List UInt8) : Connection :=
  match c.lookup streamId with
  | none => c.stop (unknownStream streamId)
  | some (i, h) =>
      if h.stream.peerFin then
        c.stop ("peer sent data on closed stream " ++ toString streamId)
      else c.setReader (.delivering i payload)

def onClose (c : Connection) (streamId : Nat) : Connection :=
  match c.lookup streamId with
  | none => c.stop (unknownStream streamId)
  | some (i, h) =>
      if h.stream.peerFin then c.stop ("peer closed stream " ++ toString streamId ++ " twice")
      else (c.setHandle i { h with stream := h.stream.setPeerFin }).setReader (.closing i)

/-- On an overflow the source calls `fail_connection` with the state of the stream locked, and
that locks the states of all streams again: its reader task marks the connection dead and
deadlocks with the table locked, where this one stops. -/
def onWindow (c : Connection) (streamId credit : Nat) : Connection :=
  match c.lookup streamId with
  | none => c.stop (unknownStream streamId)
  | some (i, h) =>
      match h.stream.grant credit with
      | some s => c.setHandle i { h with stream := s }
      | none => c.stop ("window credit overflow on stream " ++ toString streamId)

/-- The relay tears a stream down; an unknown one is passed over. -/
def teardownStream (c : Connection) (streamId : Nat) (detail : Option MuxResetError) :
    Connection :=
  match c.lookup streamId with
  | none => c.removeEntry streamId
  | some (i, h) =>
      (c.setHandle i { h with stream := h.stream.tearDown detail }).removeEntry streamId

/-- A frame for the relay client, with the two ways in which it can be undeliverable. -/
def forwardControl (c : Connection) (frame : Frame) (missing lost : String) : Connection :=
  match c.control with
  | .absent => c.stop missing
  | .receiving _ | .dropped => c.setReader (.forwarding frame lost)

/-- The arms of `reader_loop`, up to their first await. -/
def dispatch (c : Connection) : Frame → Connection
  | .opened streamId =>
      if c.mode = .relayLink then c.stop "node-to-node Open frame on a relay link"
      else if ownsStreamId c.role streamId then
        c.stop ("peer opened stream " ++ toString streamId ++ " with local id parity")
      else c.pushInboundStream streamId
  | .openStream streamId _ =>
      if c.mode ≠ .relayLink then c.stop notRelay
      else if streamId % 2 ≠ 0 then
        c.stop ("relay routed an odd (locally initiated) OpenStream " ++ toString streamId)
      else c.pushInboundStream streamId
  | .closeStream streamId =>
      if c.mode ≠ .relayLink then c.stop notRelay else c.teardownStream streamId none
  | .error streamId code message =>
      if c.mode ≠ .relayLink then c.stop notRelay
      else if streamId = 0 then
        c.forwardControl (.error streamId code message)
          "connection-level relay error without a control channel"
          "relay control receiver dropped while forwarding a connection error"
      else c.teardownStream streamId (some { code, message })
  | .presence nodeId online =>
      if c.mode ≠ .relayLink then c.stop notRelay
      else
        c.forwardControl (.presence nodeId online) "presence transition without a control channel"
          "relay control receiver dropped while forwarding a presence transition"
  | .adminResponse seq body =>
      if c.mode ≠ .relayLink then c.stop notRelay
      else
        c.forwardControl (.adminResponse seq body) "admin response without a control channel"
          "relay control receiver dropped while forwarding an admin response"
  | .data streamId payload => c.onData streamId payload
  | .close streamId => c.onClose streamId
  | .window streamId credit => c.onWindow streamId credit
  | .register _ | .unregister | .heartbeat | .enroll _ | .enrollResponse _ | .watch _
  | .adminRequest _ _ =>
      c.stop (if c.mode = .relayLink then "node-only control frame received from the relay"
        else notRelay)

/-- The reader task takes a frame, if it waits for one. -/
def receive (c : Connection) (frame : Frame) : Connection :=
  match c.reader with
  | .idle => c.dispatch frame
  | _ => c

/-- The reader task goes on behind its await. -/
def resume (c : Connection) : Connection :=
  match c.reader with
  | .delivering i payload =>
      match c.handles[i]? with
      | some h =>
          if h.call = .dropped then
            c.stop ("stream " ++ toString h.id ++
              " dropped by the local reader while the peer was writing")
          else if h.stream.inbound.length < inboundChunkQueue then
            (c.setHandle i { h with stream := h.stream.push payload }).setReader .idle
          else c
      | none => c
  | .closing i =>
      match c.handles[i]? with
      | some h =>
          if h.stream.finSent then (c.removeEntry h.id).setReader .idle
          else c.setReader .idle
      | none => c
  | .accepting i =>
      if c.acceptDropped then c.stop "connection handle dropped while accepting a stream"
      else if c.accepts.length < acceptQueue then
        { c with accepts := c.accepts ++ [i], reader := .idle }
      else c
  | .forwarding frame lost =>
      match c.control with
      | .receiving frames =>
          { c with control := .receiving (frames ++ [frame]), reader := .idle }
      | .absent | .dropped => c.stop lost
  | .idle | .stopped => c

/-! ### Steps -/

inductive Action where
  | call (i : Nat) (step : CallStep)
  | openStream (target : Option String)
  | sendOpen (i : Nat)
  | cancelOpen (i : Nat)
  | accept
  | sendControl (frame : Frame)
  | dropControl
  | dropConnection
  | resume
  /-- The link fails under the reader, or under the writer. -/
  | readFails (reason : String)
  | writeFails (reason : String)
  /-- A loop notices that the connection has failed. -/
  | stopReader
  | stopWriter

/-- What an end does by itself; frames come and go with the steps of the link. -/
def act (c : Connection) : Action → Connection
  | .call i step => c.call i step
  | .openStream target => c.openStream target
  | .sendOpen i => c.sendOpen i
  | .cancelOpen i => c.cancelOpen i
  | .accept => c.accept
  | .sendControl frame => c.sendControl frame
  | .dropControl => { c with control := .dropped }
  | .dropConnection => c.dropConnection
  | .resume => c.resume
  | .readFails reason => if c.reader = .idle then c.stop reason else c
  | .writeFails reason => { c.failConnection reason with outboundClosed := true }
  | .stopReader => if c.dead ∧ c.reader = .idle then c.setReader .stopped else c
  | .stopWriter => if c.dead then { c with outboundClosed := true } else c

/-- The writer task takes the next frame. -/
def write (c : Connection) : Option (Frame × Connection) :=
  match c.outbound with
  | frame :: rest => if c.outboundClosed then none else some (frame, { c with outbound := rest })
  | [] => none

/-! ### Small equations -/

section

variable {c : Connection} {i : Nat} {h : Handle}

theorem get_setHandle (hGet : c.handles[i]? = some h) (h' : Handle) :
    (c.setHandle i h').handles[i]? = some h' := by
  obtain ⟨hLt, -⟩ := List.getElem?_eq_some_iff.mp hGet
  exact List.getElem?_set_self hLt

@[simp] theorem setHandle_setHandle (c : Connection) (i : Nat) (h h' : Handle) :
    (c.setHandle i h).setHandle i h' = c.setHandle i h' := by
  simp [setHandle]

/-- The handle is as it was. -/
theorem setHandle_self (hGet : c.handles[i]? = some h) : c.setHandle i h = c := by
  obtain ⟨hLt, rfl⟩ := List.getElem?_eq_some_iff.mp hGet
  simp [setHandle]

@[simp] theorem enqueue_nil (c : Connection) : c.enqueue [] = c := by
  simp [enqueue]

@[simp] theorem enqueue_enqueue (c : Connection) (frames more : List Frame) :
    (c.enqueue frames).enqueue more = c.enqueue (frames ++ more) := by
  simp [enqueue]

/-- Handles and queue do not meet. -/
@[simp] theorem setHandle_enqueue (c : Connection) (i : Nat) (h : Handle) (frames : List Frame) :
    (c.enqueue frames).setHandle i h = (c.setHandle i h).enqueue frames :=
  rfl

@[simp] theorem queue_setHandle (c : Connection) (i : Nat) (h : Handle) :
    (c.setHandle i h).queue = c.queue :=
  rfl

end

end Connection

end WaitAgent.Mux
