import WaitAgent.Mux.Frame
import WaitAgent.Verified.HashMap
import WaitAgent.Verified.Run

/-!
# The egress scheduler of a relay link

Frames for a link arrive over two bounded queues.  The ingress consumer moves them into the
priority queue and into one bucket per stream; the writer drains the priority queue, then
serves the buckets with one round of deficit round robin, and starts again.  The two tasks
share a mutex that neither holds across an await, so each critical section is a step here,
and so is every frame that goes out.

The consumer polls the arms of its `select!` in a fixed order, and other tasks may run
between two polls.  The counters of the test hooks are left out.
-/

namespace WaitAgent.Relay

open Verified Mux

/-! ## Limits -/

/-- Frames that wait in an ingress queue of a link. -/
def linkOutboundQueue : Nat := 256

/-- A bucket that was empty for so many rounds is dropped. -/
def idleReapPasses : Nat := 8

structure SchedulerConfig where
  bucketCapacityBytes : Nat := 1024 * 1024
  linkBudgetBytes : Nat := 64 * 1024 * 1024
  roundBudgetBytes : Nat := 64 * 1024
  ingressCapacity : Nat := linkOutboundQueue

/-- What `spawn` makes of the configuration: an empty bucket takes a frame of any size, and
a round sends one. -/
structure Limits where
  bucketCapacity : Nat
  linkBudget : Nat
  roundBudget : Nat
  capacity : Nat
  deriving DecidableEq

def SchedulerConfig.limits (config : SchedulerConfig) : Limits :=
  let bucketCapacity := max config.bucketCapacityBytes maxFramePayload
  { bucketCapacity
    linkBudget := max config.linkBudgetBytes bucketCapacity
    roundBudget := max config.roundBudgetBytes 1
    capacity := max config.ingressCapacity 1 }

/-! ## Buckets -/

structure Bucket where
  queue : List Frame := []
  queuedBytes : Nat := 0
  /-- an `i64`: the budgets granted less the bytes sent, which overflows only after `2 ^ 63`
  bytes of either -/
  deficit : Int := 0
  idlePasses : Nat := 0
  deriving DecidableEq

namespace Bucket

/-- The frames that the deficit pays for, the others, and what is left of it. -/
def affordable : List Frame → Int → List Frame × List Frame × Int
  | [], deficit => ([], [], deficit)
  | frame :: rest, deficit =>
      if (frame.payloadLen : Int) > deficit then ([], frame :: rest, deficit)
      else
        let (taken, left, deficit) := affordable rest (deficit - frame.payloadLen)
        (frame :: taken, left, deficit)

def bytes (frames : List Frame) : Nat :=
  (frames.map Frame.payloadLen).sum

/-- One visit of a round: the frames that leave, and the bucket without them.  A bucket with
backlog sends at least one. -/
def visit (roundBudget : Nat) (b : Bucket) : List Frame × Bucket :=
  match b.queue with
  | [] => ([], { b with idlePasses := b.idlePasses + 1 })
  | frame :: rest =>
      let (taken, left, deficit) := affordable (frame :: rest) (b.deficit + roundBudget)
      if taken = [] then
        ([frame],
          { queue := rest, queuedBytes := b.queuedBytes - frame.payloadLen
            deficit := deficit - frame.payloadLen, idlePasses := 0 })
      else
        (taken,
          { queue := left, queuedBytes := b.queuedBytes - bytes taken, deficit, idlePasses := 0 })

/-- Nobody has fed the bucket for a while. -/
def reaped (b : Bucket) : Bool :=
  b.queue.isEmpty && b.idlePasses ≥ idleReapPasses

/-- The bucket of a stream, a new one if there is none. -/
def ofStream (buckets : HashMap Nat Bucket) (streamId : Nat) : Bucket :=
  (buckets.lookup streamId).getD {}

end Bucket

/-! ## Tasks -/

/-- The arm of the `select!` that the ingress consumer polls next. -/
inductive Consumer where
  | spaceArm
  | controlArm
  | bulkArm
  | done
  deriving DecidableEq

/-- Where the writer stands. -/
inductive Writer where
  /-- At the top of its loop. -/
  | top
  /-- It writes the priority batch, of which `left` is left; `quiet` if that was empty. -/
  | control (left : List Frame) (quiet : Bool)
  /-- It writes what a round has taken. -/
  | bulk (left : List Frame) (empty moreWork quiet : Bool)
  /-- It waits for work. -/
  | waiting
  /-- It has left the loop, and has yet to say so. -/
  | leaving
  | stopped
  deriving DecidableEq

structure Scheduler where
  limits : Limits
  /-- The ingress queues. -/
  bulk : List Frame := []
  control : List Frame := []
  /-- Every producer is gone. -/
  ingressDropped : Bool := false
  /-- The state of the consumer. -/
  consumer : Consumer := .spaceArm
  parked : Option Frame := none
  bulkClosed : Bool := false
  controlClosed : Bool := false
  /-- The shared state. -/
  priority : List Frame := []
  buckets : HashMap Nat Bucket := ∅
  totalBucketBytes : Nat := 0
  ingressOpen : Bool := true
  writerDone : Bool := false
  /-- A stored permit of either signal. -/
  workAvailable : Bool := false
  spaceFreed : Bool := false
  writer : Writer := .top
  /-- The frames that have gone out. -/
  written : List Frame := []
  /-- All frames that the ingress has taken. -/
  accepted : List Frame := []

namespace Scheduler

def spawn (config : SchedulerConfig) : Scheduler :=
  { limits := config.limits }

/-! ## Producers -/

/-- There is room for the frame in its queue. -/
def hasRoom (s : Scheduler) (frame : Frame) : Bool :=
  (if frame.isBulkOrdered then s.bulk else s.control).length < s.limits.capacity

/-- `SchedulerIngress::send`, once there is room. -/
def send (s : Scheduler) (frame : Frame) : Scheduler :=
  if s.hasRoom frame then
    if frame.isBulkOrdered then
      { s with bulk := s.bulk ++ [frame], accepted := s.accepted ++ [frame] }
    else { s with control := s.control ++ [frame], accepted := s.accepted ++ [frame] }
  else s

/-! ## The ingress consumer -/

/-- A frame joins the priority queue. -/
def classify (s : Scheduler) (frame : Frame) : Scheduler :=
  { s with priority := s.priority ++ [frame], workAvailable := true }

/-- `enqueue_bucket`, and what its caller does with the outcome. -/
def enqueueBucket (s : Scheduler) (frame : Frame) : Scheduler :=
  if s.writerDone then { s with parked := none }
  else
    let bucket := Bucket.ofStream s.buckets frame.streamId
    let len := frame.payloadLen
    if bucket.queuedBytes + len ≤ s.limits.bucketCapacity ∧
        s.totalBucketBytes + len ≤ s.limits.linkBudget then
      { s with
        parked := none
        buckets := s.buckets.insert frame.streamId
          { bucket with
            queue := bucket.queue ++ [frame], queuedBytes := bucket.queuedBytes + len
            idlePasses := 0 }
        totalBucketBytes := s.totalBucketBytes + len
        workAvailable := true }
    else { s with parked := some frame, buckets := s.buckets.insert frame.streamId bucket }

def atArm (s : Scheduler) (consumer : Consumer) : Scheduler :=
  { s with consumer }

def takePermit (s : Scheduler) : Scheduler :=
  { s with spaceFreed := false }

/-- The first arm: a parked frame tries again after the writer has made room.  The loop ends
when both queues are closed and nothing is parked. -/
def pollSpace (s : Scheduler) : Scheduler :=
  match s.parked with
  | none =>
      if s.bulkClosed ∧ s.controlClosed then
        { s with consumer := .done, ingressOpen := false, workAvailable := true }
      else s.atArm .controlArm
  | some frame =>
      if s.spaceFreed then s.takePermit.enqueueBucket frame
      else s.atArm .controlArm

def popControl (s : Scheduler) (rest : List Frame) : Scheduler :=
  { s with control := rest }

def pollControl (s : Scheduler) : Scheduler :=
  if s.controlClosed then s.atArm .bulkArm
  else
    match s.control with
    | frame :: rest => ((s.popControl rest).classify frame).atArm .spaceArm
    | [] =>
        if s.ingressDropped then { s with controlClosed := true, consumer := .spaceArm }
        else s.atArm .bulkArm

def popBulk (s : Scheduler) (rest : List Frame) : Scheduler :=
  { s with bulk := rest }

/-- The last arm, which a parked frame holds up. -/
def pollBulk (s : Scheduler) : Scheduler :=
  if s.bulkClosed ∨ s.parked.isSome then s.atArm .spaceArm
  else
    match s.bulk with
    | frame :: rest =>
        if frame.isBulkOrdered then ((s.popBulk rest).enqueueBucket frame).atArm .spaceArm
        else ((s.popBulk rest).classify frame).atArm .spaceArm
    | [] =>
        if s.ingressDropped then { s with bulkClosed := true, consumer := .spaceArm }
        else s.atArm .spaceArm

/-- The ingress consumer polls one arm. -/
def consume (s : Scheduler) : Scheduler :=
  match s.consumer with
  | .spaceArm => s.pollSpace
  | .controlArm => s.pollControl
  | .bulkArm => s.pollBulk
  | .done => s

/-! ## The writer -/

/-- The first critical section: the priority queue is emptied. -/
def drain (s : Scheduler) : Scheduler :=
  match s.writer with
  | .top => { s with priority := [], writer := .control s.priority s.priority.isEmpty }
  | _ => s

/-- The buckets after a round. -/
def visited (s : Scheduler) : HashMap Nat Bucket :=
  (s.buckets.mapValues fun _ b => (b.visit s.limits.roundBudget).2).retain fun _ b => !b.reaped

/-- What a round takes, when it visits the buckets in this order. -/
def batch (s : Scheduler) (order : List Nat) : List Frame :=
  order.flatMap fun streamId => ((Bucket.ofStream s.buckets streamId).visit s.limits.roundBudget).1

/-- The second critical section: one round over all buckets, in the order of the map.  The
budget is given free before anything is written. -/
def round (s : Scheduler) (order : List Nat) : Scheduler :=
  match s.writer with
  | .control [] quiet =>
      if order.Perm s.buckets.keys then
        let batch := s.batch order
        let buckets := s.visited
        let pending := !s.priority.isEmpty || buckets.values.any fun b => !b.queue.isEmpty
        { s with
          buckets
          totalBucketBytes := s.totalBucketBytes - Bucket.bytes batch
          spaceFreed := s.spaceFreed || !batch.isEmpty
          writer := .bulk batch batch.isEmpty (pending || s.ingressOpen) quiet }
      else s
  | _ => s

/-- One frame goes out. -/
def emit (s : Scheduler) : Scheduler :=
  match s.writer with
  | .control (frame :: left) quiet =>
      { s with written := s.written ++ [frame], writer := .control left quiet }
  | .bulk (frame :: left) empty moreWork quiet =>
      { s with written := s.written ++ [frame], writer := .bulk left empty moreWork quiet }
  | _ => s

/-- The end of the loop body. -/
def turn (s : Scheduler) : Scheduler :=
  match s.writer with
  | .bulk [] empty moreWork quiet =>
      if moreWork then { s with writer := if empty && quiet then .waiting else .top }
      else { s with writer := if empty then .leaving else .top }
  | _ => s

def wake (s : Scheduler) : Scheduler :=
  match s.writer with
  | .waiting => if s.workAvailable then { s with workAvailable := false, writer := .top } else s
  | _ => s

/-- The socket fails under a frame. -/
def writeFails (s : Scheduler) : Scheduler :=
  match s.writer with
  | .control (_ :: _) _ | .bulk (_ :: _) _ _ _ => { s with writer := .leaving }
  | _ => s

def leave (s : Scheduler) : Scheduler :=
  match s.writer with
  | .leaving => { s with writerDone := true, spaceFreed := true, writer := .stopped }
  | _ => s

/-! ## Steps -/

inductive Label where
  | send (frame : Frame)
  | dropIngress
  | consume
  | drain
  | round (order : List Nat)
  | emit
  | turn
  | wake
  | writeFails
  | leave
  deriving DecidableEq

def step (s : Scheduler) : Label → Scheduler
  | .send frame => if s.ingressDropped then s else s.send frame
  | .dropIngress => { s with ingressDropped := true }
  | .consume => s.consume
  | .drain => s.drain
  | .round order => s.round order
  | .emit => s.emit
  | .turn => s.turn
  | .wake => s.wake
  | .writeFails => s.writeFails
  | .leave => s.leave

end Scheduler

end WaitAgent.Relay
