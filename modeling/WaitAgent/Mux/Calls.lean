import WaitAgent.Mux.Duplex

/-!
# Calls that run through

What a whole call does when nothing is in its way, as one equation each: a write, the
delivery of a chunk, a read whose grant is deferred.  Histories are put together from
these.
-/

namespace WaitAgent.Mux

open Verified

namespace Connection

variable {c : Connection} {i : Nat} {h h' : Handle}

/-- A step of a call, by what it does to the handle. -/
theorem call_eq (hGet : c.handles[i]? = some h) {step : CallStep} {frame : Option Frame}
    (hStep : h.step (c.context i h) step = (h', frame)) :
    c.call i step = (c.setHandle i h').enqueue frame.toList := by
  rw [call, hGet]
  dsimp only
  rw [hStep]

theorem call_quiet (hGet : c.handles[i]? = some h) {step : CallStep}
    (hStep : h.step (c.context i h) step = (h', none)) : c.call i step = c.setHandle i h' := by
  rw [call_eq hGet hStep, Option.toList_none, enqueue_nil]

/-! ## Writing -/

def writeCalls (i : Nat) (payload : List UInt8) : List Action :=
  [.call i (.write payload), .call i .plan, .call i .send, .call i .debit]

/-- A write that the credit and the queue allow. -/
theorem run_writeCalls {payload : List UInt8} (hGet : c.handles[i]? = some h)
    (hIdle : h.call = .idle) (hReset : h.stream.reset = false) (hFin : h.stream.finSent = false)
    (hDead : c.dead = false) (hQueue : c.queue = .queued) (hNe : payload ≠ [])
    (hMax : payload.length ≤ maxFramePayload) (hCredit : payload.length ≤ h.stream.peerCredit) :
    run act c (writeCalls i payload) =
      (c.setHandle i
        { h with stream := h.stream.debit payload.length, wrote := h.wrote ++ payload }).enqueue
          [.data h.id payload] := by
  have hAllow : h.stream.allowance payload = .ok payload.length := by
    simp only [Stream.allowance, hFin, Bool.false_eq_true, if_false]
    congr 1
    omega
  have hLength : payload.length ≠ 0 := by simpa using hNe
  have hWrite : h.step (c.context i h) (.write payload) =
      ({ h with call := .checked payload }, none) := by
    simp [Handle.step, hIdle, hNe, Stream.checkWrite, hReset, context, link, hDead]
  have hPlan (ctx : Context) : Handle.step ctx { h with call := .checked payload } .plan =
      ({ h with call := .sending payload }, none) := by
    simp [Handle.step, hAllow, hLength]
  have hSend (ctx : Context) (hCtx : ctx.queue = .queued) :
      Handle.step ctx { h with call := .sending payload } .send =
        ({ h with call := .debiting payload.length, wrote := h.wrote ++ payload },
          some (.data h.id payload)) := by
    simp [Handle.step, hCtx, Handle.id]
  have hDebit (ctx : Context) :
      Handle.step ctx
          { h with call := .debiting payload.length, wrote := h.wrote ++ payload } .debit =
        ({ h with stream := h.stream.debit payload.length, wrote := h.wrote ++ payload },
          none) := by
    rw [Handle.step, ← hIdle]
  have hQueued : (c.setHandle i { h with call := .sending payload }).queue = .queued := hQueue
  simp only [writeCalls, run_cons, run_nil, act]
  rw [call_quiet hGet hWrite, call_quiet (get_setHandle hGet _) (hPlan _), setHandle_setHandle,
    call_eq (get_setHandle hGet _) (hSend _ hQueued), setHandle_setHandle,
    call_quiet (c := (c.setHandle i _).enqueue _) (get_setHandle hGet _) (hDebit _),
    setHandle_enqueue, setHandle_setHandle]
  rfl

def repeatCalls (i : Nat) (payload : List UInt8) (k : Nat) : List Action :=
  (List.replicate k (writeCalls i payload)).flatten

/-- The same write, as many times as there is room and credit for it. -/
theorem run_repeatCalls {payload : List UInt8} {k : Nat} (hGet : c.handles[i]? = some h)
    (hIdle : h.call = .idle) (hReset : h.stream.reset = false) (hFin : h.stream.finSent = false)
    (hDead : c.dead = false) (hOpen : c.outboundClosed = false) (hNe : payload ≠ [])
    (hMax : payload.length ≤ maxFramePayload) (hRoom : c.outbound.length + k ≤ outboundQueue)
    (hCredit : k * payload.length ≤ h.stream.peerCredit) :
    run act c (repeatCalls i payload k) =
      (c.setHandle i
        { h with
          stream := h.stream.debit (k * payload.length)
          wrote := h.wrote ++ (List.replicate k payload).flatten }).enqueue
          (List.replicate k (.data h.id payload)) := by
  induction k generalizing c h with
  | zero =>
    have hSame : { h with stream := h.stream.debit 0, wrote := h.wrote ++ [] } = h := by
      simp [Stream.debit]
    simp only [repeatCalls, List.replicate_zero, List.flatten_nil, run_nil, Nat.zero_mul]
    rw [hSame, setHandle_self hGet, enqueue_nil]
  | succ k ih =>
    rw [Nat.succ_mul] at hCredit
    have hQueue : c.queue = .queued := by
      rw [queue, hOpen, if_neg (by decide), if_pos (by omega)]
    have hFirst := run_writeCalls hGet hIdle hReset hFin hDead hQueue hNe hMax (by omega)
    have hCalls : repeatCalls i payload (k + 1) =
        writeCalls i payload ++ repeatCalls i payload k := by
      rw [repeatCalls, List.replicate_succ, List.flatten_cons, repeatCalls]
    -- the queue holds one frame more, and the handle has less credit
    have hRest := ih (c := (c.setHandle i
        { h with
          stream := h.stream.debit payload.length
          wrote := h.wrote ++ payload }).enqueue [.data h.id payload])
      (get_setHandle hGet _) hIdle hReset hFin hDead hOpen
      (by
        rw [enqueue_outbound, setHandle_outbound, List.length_append, List.length_singleton]
        omega)
      (by
        simp only [Stream.debit]
        omega)
    rw [hCalls, run_append, hFirst, hRest, setHandle_enqueue, setHandle_setHandle,
      enqueue_enqueue]
    simp [Stream.debit, Handle.id, List.replicate_succ, Nat.sub_sub, Nat.succ_mul,
      Nat.add_comm]

def fillCalls (i k : Nat) : List Action :=
  (List.replicate k (writeCalls i [0])).flatten

/-- Writes of a byte each, as many as there is room for. -/
theorem run_fillCalls {k : Nat} (hGet : c.handles[i]? = some h) (hIdle : h.call = .idle)
    (hReset : h.stream.reset = false) (hFin : h.stream.finSent = false) (hDead : c.dead = false)
    (hOpen : c.outboundClosed = false) (hRoom : c.outbound.length + k ≤ outboundQueue)
    (hCredit : k ≤ h.stream.peerCredit) :
    run act c (fillCalls i k) =
      (c.setHandle i
        { h with stream := h.stream.debit k, wrote := h.wrote ++ List.replicate k 0 }).enqueue
          (List.replicate k (.data h.id [0])) := by
  have hNe : ([0] : List UInt8) ≠ [] := by decide
  have hRun := run_repeatCalls hGet hIdle hReset hFin hDead hOpen hNe (by decide) hRoom
    (by simpa using hCredit)
  rw [List.length_singleton, Nat.mul_one, List.flatten_replicate_singleton] at hRun
  exact hRun

/-! ## The reader task -/

/-- A chunk that finds room in the queue of its stream. -/
theorem resume_onData {streamId : Nat} {payload : List UInt8}
    (hTable : c.table.lookup streamId = some i) (hGet : c.handles[i]? = some h)
    (hReader : c.reader = .idle) (hFin : h.stream.peerFin = false) (hHeld : h.call ≠ .dropped)
    (hRoom : h.stream.inbound.length < inboundChunkQueue) :
    (c.receive (.data streamId payload)).resume =
      c.setHandle i { h with stream := h.stream.push payload } := by
  have hLookup : c.lookup streamId = some (i, h) := by
    simp [lookup, hTable, hGet]
  have hData : c.receive (.data streamId payload) =
      c.setReader (.delivering i payload) := by
    simp [receive, hReader, dispatch, onData, hLookup, hFin]
  rw [hData]
  simp only [resume, setReader_reader, setReader_handles, hGet, hHeld, if_false, hRoom, if_true]
  simp [setHandle, setReader, ← hReader]

/-! ## Reading -/

def readCalls (i room : Nat) : List Action :=
  [.call i (.read room), .call i .grant]

/-- A stream whose first chunk of `n` bytes has been read whole. -/
def pastChunk (s : Stream) (n : Nat) (rest : List (List UInt8)) : Nat × Stream :=
  ({ s with inbound := rest } : Stream).accountConsumed n

/-- A chunk is read whole, and counted. -/
theorem call_read_chunk {room : Nat} {chunk : List UInt8} {rest : List (List UInt8)}
    (hGet : c.handles[i]? = some h) (hIdle : h.call = .idle)
    (hInbound : h.stream.inbound = chunk :: rest) (hLeft : ¬ h.stream.HasLeftover)
    (hRoom : chunk.length ≤ room) (hNe : chunk ≠ []) :
    c.call i (.read room) =
      c.setHandle i
        { h with
          stream := (pastChunk h.stream chunk.length rest).2
          call :=
            if (pastChunk h.stream chunk.length rest).1 = 0 then .idle
            else .granting (pastChunk h.stream chunk.length rest).1
          received := h.received ++ chunk } := by
  have hEmpty : chunk.isEmpty = false := by simpa using hNe
  have hPos : 0 < chunk.length := List.length_pos_iff.mpr hNe
  have hStart (hasSender : Bool) : h.stream.startRead room hasSender =
      (.copied chunk (pastChunk h.stream chunk.length rest).1,
        (pastChunk h.stream chunk.length rest).2) := by
    simp [pastChunk, Stream.startRead, hLeft, hInbound, Stream.takeChunk, Nat.min_eq_right hRoom,
      show room ≠ 0 by omega]
  have hRead : h.step (c.context i h) (.read room) = (h.read (c.context i h) room, none) := by
    simp only [Handle.step, hIdle]
  rw [call_quiet hGet hRead, Handle.read, hStart]
  simp [hEmpty]

/-- A chunk that is read whole while the outbound queue is full: what is consumed is
counted, and kept. -/
theorem run_readCalls_full {room : Nat} {chunk : List UInt8} {rest : List (List UInt8)}
    (hGet : c.handles[i]? = some h) (hIdle : h.call = .idle)
    (hInbound : h.stream.inbound = chunk :: rest) (hLeft : ¬ h.stream.HasLeftover)
    (hRoom : chunk.length ≤ room) (hNe : chunk ≠ []) (hQueue : c.queue = .full) :
    run act c (readCalls i room) =
      c.setHandle i
        { h with
          stream := { h.stream with
            inbound := rest, consumedAccum := h.stream.consumedAccum + chunk.length }
          received := h.received ++ chunk } := by
  have hPos : 0 < chunk.length := List.length_pos_iff.mpr hNe
  simp only [readCalls, run_cons, run_nil, act]
  rw [call_read_chunk hGet hIdle hInbound hLeft hRoom hNe]
  by_cases hReached : h.stream.consumedAccum + chunk.length ≥ windowGrantThreshold
  · -- the grant is taken out of the sum, finds the queue full, and goes back
    have hGrant (ctx : Context) (hCtx : ctx.queue = .full) (h' : Handle) (delta : Nat)
        (hCall : h'.call = .granting delta) : h'.step ctx .grant =
          ({ h' with call := .idle, stream := h'.stream.deferGrant delta }, none) := by
      simp only [Handle.step, hCall, hCtx]
    have hDelta : h.stream.consumedAccum + chunk.length ≠ 0 := by omega
    simp only [pastChunk, Stream.accountConsumed, hReached, if_true, hDelta, if_false]
    rw [call_quiet (get_setHandle hGet _) (hGrant _ hQueue _ _ rfl), setHandle_setHandle]
    simp [Stream.deferGrant, hIdle]
  · simp only [pastChunk, Stream.accountConsumed, hReached, if_false, if_true]
    rw [call_quiet (get_setHandle hGet _) rfl, setHandle_setHandle]
    simp [hIdle]

end Connection

/-! ## Histories of a duplex -/

namespace Duplex

/-- The client, the server, and the frames under way from each. -/
def pair (client server : Connection) (up down : List Frame) : Duplex where
  ends
    | .client => client
    | .server => server
  wire
    | .client => up
    | .server => down

variable {client server : Connection} {up down : List Frame}

theorem eq_pair (d : Duplex) :
    d = pair (d.ends .client) (d.ends .server) (d.wire .client) (d.wire .server) := by
  rcases d with ⟨ends, wire⟩
  simp only [pair, mk.injEq]
  constructor <;> funext side <;> cases side <;> rfl

theorem run_act_client (as : List Connection.Action) :
    run step (pair client server up down) (as.map (.act .client)) =
      pair (run Connection.act client as) server up down := by
  induction as generalizing client with
  | nil => rfl
  | cons a as ih =>
    have hStep : (pair client server up down).step (.act .client a) =
        pair (client.act a) server up down := eq_pair _
    rw [List.map_cons, run_cons, run_cons, hStep, ih]

theorem run_act_server (as : List Connection.Action) :
    run step (pair client server up down) (as.map (.act .server)) =
      pair client (run Connection.act server as) up down := by
  induction as generalizing server with
  | nil => rfl
  | cons a as ih =>
    have hStep : (pair client server up down).step (.act .server a) =
        pair client (server.act a) up down := eq_pair _
    rw [List.map_cons, run_cons, run_cons, hStep, ih]

theorem step_write_server {frame : Frame} {c : Connection}
    (h : server.write = some (frame, c)) :
    (pair client server up down).step (.write .server) = pair client c up (down ++ [frame]) := by
  rw [eq_pair ((pair client server up down).step (.write .server))]
  have hEnds : (pair client server up down).ends .server = server := rfl
  simp only [step, hEnds, h]
  rfl

theorem step_receive_client {frame : Frame} (h : client.reader = .idle) :
    (pair client server up (frame :: down)).step (.receive .client) =
      pair (client.receive frame) server up down := by
  rw [eq_pair ((pair client server up (frame :: down)).step (.receive .client))]
  have hEnds : (pair client server up (frame :: down)).ends .client = client := rfl
  have hWire : (pair client server up (frame :: down)).wire Side.client.other = frame :: down := rfl
  simp only [step, hEnds, h, hWire]
  rfl

end Duplex

end WaitAgent.Mux
