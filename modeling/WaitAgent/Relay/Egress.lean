import WaitAgent.Relay.Scheduler

/-!
# Two lanes

What the scheduler of a link is for, without its tasks: control frames keep their order,
the bulk frames of a stream keep theirs, and the writer takes from one lane at a time.  A
frame that the writer has taken goes out before anything that it takes later.  As long as
the writer runs, every step of the scheduler is one of these moves, or none.
-/

namespace WaitAgent.Relay

open Verified Mux

/-! ## The lanes -/

structure Lanes where
  /-- The control frames that wait for the writer. -/
  control : List Frame
  /-- The bulk frames of a stream that wait. -/
  bulk : Nat → List Frame
  /-- What the writer has taken. -/
  taken : List Frame
  written : List Frame
  /-- All that has joined a lane. -/
  accepted : List Frame

namespace Lanes

/-- A frame joins its lane. -/
def accept (l : Lanes) (frame : Frame) : Lanes :=
  { l with
    control := if frame.isBulkOrdered then l.control else l.control ++ [frame]
    bulk := fun i =>
      if frame.isBulkOrdered ∧ frame.streamId = i then l.bulk i ++ [frame] else l.bulk i
    accepted := l.accepted ++ [frame] }

/-- The writer takes the first of the control frames. -/
structure Drain (l l' : Lanes) : Prop where
  idle : l.taken = []
  control_eq : l.control = l'.taken ++ l'.control
  bulk_eq : l'.bulk = l.bulk
  written_eq : l'.written = l.written
  accepted_eq : l'.accepted = l.accepted

/-- It takes the first frames of each stream. -/
structure Serve (l l' : Lanes) : Prop where
  idle : l.taken = []
  bulk_eq : ∀ i, l.bulk i = (l'.taken.filter fun frame => frame.streamId = i) ++ l'.bulk i
  control_eq : l'.control = l.control
  written_eq : l'.written = l.written
  accepted_eq : l'.accepted = l.accepted

/-- The first frame that it has taken goes out. -/
structure Emit (l l' : Lanes) (frame : Frame) : Prop where
  taken_eq : l.taken = frame :: l'.taken
  written_eq : l'.written = l.written ++ [frame]
  control_eq : l'.control = l.control
  bulk_eq : l'.bulk = l.bulk
  accepted_eq : l'.accepted = l.accepted

end Lanes

/-! ## The lanes of a scheduler -/

/-- What the writer has yet to write of its batch. -/
def Writer.left : Writer → List Frame
  | control left _ | bulk left _ _ _ => left
  | top | waiting | leaving | stopped => []

namespace Scheduler

variable {s : Scheduler}

def lanes (s : Scheduler) : Lanes where
  control := s.priority ++ s.control
  bulk i := (Bucket.ofStream s.buckets i).queue ++
    (s.parked.toList ++ s.bulk).filter fun frame => frame.streamId = i
  taken := s.writer.left
  written := s.written
  accepted := s.accepted

/-- The writer has ended, and nothing goes out any more. -/
def halted (s : Scheduler) : Bool :=
  s.writer = .leaving || s.writer = .stopped

/-- A bulk frame of stream `i`. -/
def BulkOf (i : Nat) (frame : Frame) : Prop :=
  frame.streamId = i ∧ frame.isBulkOrdered = true

structure Wf (s : Scheduler) : Prop where
  bulk : ∀ frame ∈ s.parked.toList ++ s.bulk, frame.isBulkOrdered = true
  control : ∀ frame ∈ s.priority ++ s.control, frame.isBulkOrdered = false
  buckets : ∀ i, ∀ frame ∈ (Bucket.ofStream s.buckets i).queue, BulkOf i frame
  done : s.writerDone = true → s.halted = true

theorem wf_spawn (config : SchedulerConfig) : (spawn config).Wf where
  bulk _ hMem := nomatch hMem
  control _ hMem := nomatch hMem
  buckets _ _ hMem := nomatch hMem
  done hDone := nomatch hDone

/-- As long as the writer runs, frames are not dropped. -/
theorem Wf.running (hWf : s.Wf) (hRuns : s.halted = false) : s.writerDone = false := by
  by_contra hDone
  rw [hWf.done (by simpa using hDone)] at hRuns
  cases hRuns

theorem Wf.done_of_running (hWf : s.Wf) (hRuns : s.halted = false) {p : Prop}
    (hDone : s.writerDone = true) : p := by
  rw [hWf.running hRuns] at hDone
  cases hDone

/-! ### Sending -/

theorem lanes_send {frame : Frame} (hRoom : s.hasRoom frame = true) :
    (s.send frame).lanes = s.lanes.accept frame := by
  simp only [send, hRoom, if_true, Lanes.accept]
  cases hBulk : frame.isBulkOrdered with
  | false => simp [lanes]
  | true =>
    simp only [lanes, if_true, Lanes.mk.injEq, true_and, and_true]
    funext i
    by_cases hi : frame.streamId = i <;> simp [hi]

theorem Wf.send (hWf : s.Wf) (frame : Frame) : (s.send frame).Wf := by
  unfold Scheduler.send
  split_ifs with hRoom hBulk
  · refine ⟨?_, hWf.control, hWf.buckets, hWf.done⟩
    intro f hMem
    rw [← List.append_assoc, List.mem_append, List.mem_singleton] at hMem
    rcases hMem with hOld | rfl
    · exact hWf.bulk f hOld
    · exact hBulk
  · refine ⟨hWf.bulk, ?_, hWf.buckets, hWf.done⟩
    intro f hMem
    rw [← List.append_assoc, List.mem_append, List.mem_singleton] at hMem
    rcases hMem with hOld | rfl
    · exact hWf.control f hOld
    · simpa using hBulk
  · exact hWf

/-! ### The consumer -/

theorem ofStream_insert (buckets : HashMap Nat Bucket) (i j : Nat) (bucket : Bucket) :
    Bucket.ofStream (buckets.insert i bucket) j =
      if j = i then bucket else Bucket.ofStream buckets j := by
  unfold Bucket.ofStream
  rw [AList.lookup_insert_eq_ite]
  split_ifs <;> rfl

/-- A frame in the hand of the consumer. -/
def hold (s : Scheduler) (frame : Frame) : Scheduler :=
  { s with parked := some frame }

theorem hold_of_parked {frame : Frame} (h : s.parked = some frame) : s.hold frame = s := by
  rw [hold, ← h]

/-- It joins its bucket, or waits to; nothing else moves. -/
theorem lanes_enqueueBucket (frame : Frame) (hDone : s.writerDone = false) :
    (s.enqueueBucket frame).lanes = (s.hold frame).lanes := by
  simp only [enqueueBucket, hDone, Bool.false_eq_true, if_false]
  split_ifs with hFits
  · simp only [lanes, hold, Lanes.mk.injEq, true_and, and_true]
    funext i
    rw [ofStream_insert]
    by_cases hi : frame.streamId = i
    · subst hi
      simp
    · simp [hi, Ne.symm hi]
  · simp only [lanes, hold, Lanes.mk.injEq, true_and, and_true]
    funext i
    rw [ofStream_insert]
    split_ifs with hi
    · rw [hi]
    · rfl

theorem lanes_hold_popBulk {frame : Frame} {rest : List Frame} (hFree : s.parked = none)
    (hBulk : s.bulk = frame :: rest) : ((s.popBulk rest).hold frame).lanes = s.lanes := by
  simp [lanes, hold, popBulk, hFree, hBulk]

/-- Only the flags of the consumer, and what it signals, differ. -/
structure SameQueues (s s' : Scheduler) : Prop where
  bulk_eq : s'.bulk = s.bulk
  control_eq : s'.control = s.control
  parked_eq : s'.parked = s.parked
  priority_eq : s'.priority = s.priority
  buckets_eq : s'.buckets = s.buckets
  writerDone_eq : s'.writerDone = s.writerDone
  writer_eq : s'.writer = s.writer
  written_eq : s'.written = s.written
  accepted_eq : s'.accepted = s.accepted
  limits_eq : s'.limits = s.limits
  totalBucketBytes_eq : s'.totalBucketBytes = s.totalBucketBytes
  spaceFreed_eq : s'.spaceFreed = s.spaceFreed

/-- A poll moves nothing, classifies a control frame, or offers a bulk frame to its bucket:
the parked one, or the first of the queue. -/
theorem consume_cases (s : Scheduler) :
    SameQueues s s.consume ∨
    (∃ frame rest, s.control = frame :: rest ∧
      s.consume = ((s.popControl rest).classify frame).atArm .spaceArm) ∨
    (∃ frame, s.parked = some frame ∧ s.consume = s.takePermit.enqueueBucket frame) ∨
    ∃ frame rest, s.parked = none ∧ s.bulk = frame :: rest ∧
      s.consume = (if frame.isBulkOrdered then (s.popBulk rest).enqueueBucket frame
        else (s.popBulk rest).classify frame).atArm .spaceArm := by
  unfold consume
  split
  · unfold pollSpace
    split
    · left
      split_ifs <;> constructor <;> rfl
    · next frame hParked =>
      split_ifs
      · exact Or.inr (Or.inr (Or.inl ⟨frame, hParked, rfl⟩))
      · left
        constructor <;> rfl
  · unfold pollControl
    by_cases hClosed : s.controlClosed = true
    · rw [if_pos hClosed]
      left
      constructor <;> rfl
    · rw [if_neg hClosed]
      split
      · next frame rest hControl => exact Or.inr (Or.inl ⟨frame, rest, hControl, rfl⟩)
      · left
        split_ifs <;> constructor <;> rfl
  · unfold pollBulk
    by_cases hIdle : s.bulkClosed = true ∨ s.parked.isSome = true
    · rw [if_pos hIdle]
      left
      constructor <;> rfl
    · rw [if_neg hIdle]
      have hFree : s.parked = none := by simpa using (not_or.mp hIdle).2
      split
      · next frame rest hBulk =>
        refine Or.inr (Or.inr (Or.inr ⟨frame, rest, hFree, hBulk, ?_⟩))
        split_ifs <;> rfl
      · left
        split_ifs <;> constructor <;> rfl
  · left
    constructor <;> rfl

theorem lanes_consume (hWf : s.Wf) (hDone : s.writerDone = false) :
    s.consume.lanes = s.lanes := by
  obtain hSame | ⟨frame, rest, hControl, hEq⟩ | ⟨frame, hParked, hEq⟩ |
    ⟨frame, rest, hFree, hBulk, hEq⟩ := s.consume_cases
  · simp only [lanes, hSame.bulk_eq, hSame.control_eq, hSame.parked_eq, hSame.priority_eq,
      hSame.buckets_eq, hSame.writer_eq, hSame.written_eq, hSame.accepted_eq]
  · rw [hEq]
    simp [lanes, atArm, classify, popControl, hControl]
  · have hKept : s.takePermit.hold frame = s.takePermit := hold_of_parked hParked
    rw [hEq, lanes_enqueueBucket (s := s.takePermit) frame hDone, hKept]
    rfl
  · have hOrdered : frame.isBulkOrdered = true := hWf.bulk frame (by simp [hBulk])
    rw [hEq, if_pos hOrdered, ← lanes_hold_popBulk hFree hBulk]
    exact lanes_enqueueBucket (s := s.popBulk rest) frame hDone

theorem Wf.enqueueBucket {frame : Frame} (hWf : s.Wf) (hBulk : frame.isBulkOrdered = true) :
    (s.enqueueBucket frame).Wf := by
  have hRest (f : Frame) (hMem : f ∈ s.bulk) : f.isBulkOrdered = true :=
    hWf.bulk f (List.mem_append_right _ hMem)
  simp only [Scheduler.enqueueBucket]
  split_ifs with hDone hFits
  · exact ⟨hRest, hWf.control, hWf.buckets, hWf.done⟩
  · refine ⟨hRest, hWf.control, ?_, hWf.done⟩
    intro i f hMem
    rw [ofStream_insert] at hMem
    split_ifs at hMem with hi
    · subst hi
      rcases List.mem_append.mp hMem with hOld | hNew
      · exact hWf.buckets _ f hOld
      · rw [List.mem_singleton.mp hNew]
        exact ⟨rfl, hBulk⟩
    · exact hWf.buckets i f hMem
  · refine ⟨?_, hWf.control, ?_, hWf.done⟩
    · intro f hMem
      rcases List.mem_cons.mp hMem with rfl | hOld
      · exact hBulk
      · exact hRest f hOld
    · intro i f hMem
      rw [ofStream_insert] at hMem
      split_ifs at hMem with hi
      · rw [hi]
        exact hWf.buckets _ f hMem
      · exact hWf.buckets i f hMem

theorem Wf.consume (hWf : s.Wf) : s.consume.Wf := by
  obtain hSame | ⟨frame, rest, hControl, hEq⟩ | ⟨frame, hParked, hEq⟩ |
    ⟨frame, rest, hFree, hBulk, hEq⟩ := s.consume_cases
  · constructor
    · rw [hSame.parked_eq, hSame.bulk_eq]
      exact hWf.bulk
    · rw [hSame.priority_eq, hSame.control_eq]
      exact hWf.control
    · rw [hSame.buckets_eq]
      exact hWf.buckets
    · rw [hSame.writerDone_eq, halted, hSame.writer_eq]
      exact hWf.done
  · rw [hEq]
    refine ⟨hWf.bulk, ?_, hWf.buckets, hWf.done⟩
    intro f hMem
    apply hWf.control f
    simpa [classify, popControl, atArm, hControl] using hMem
  · have hOrdered : frame.isBulkOrdered = true := hWf.bulk frame (by simp [hParked])
    rw [hEq]
    exact Wf.enqueueBucket ⟨hWf.bulk, hWf.control, hWf.buckets, hWf.done⟩ hOrdered
  · have hOrdered : frame.isBulkOrdered = true := hWf.bulk frame (by simp [hBulk])
    have hPopped : (s.popBulk rest).Wf := by
      refine ⟨?_, hWf.control, hWf.buckets, hWf.done⟩
      intro f hMem
      apply hWf.bulk f
      rw [hBulk]
      rcases List.mem_append.mp hMem with hParked | hRest
      · exact List.mem_append_left _ hParked
      · exact List.mem_append_right _ (List.mem_cons_of_mem _ hRest)
    have hQueued := hPopped.enqueueBucket hOrdered
    rw [hEq, if_pos hOrdered]
    exact ⟨hQueued.bulk, hQueued.control, hQueued.buckets, hQueued.done⟩

end Scheduler

/-! ### Rounds -/

namespace Bucket

theorem affordable_append (frames : List Frame) (deficit : Int) :
    (affordable frames deficit).1 ++ (affordable frames deficit).2.1 = frames := by
  induction frames generalizing deficit with
  | nil => rfl
  | cons frame rest ih =>
    unfold affordable
    split_ifs
    · rfl
    · have hRest := ih (deficit - frame.payloadLen)
      simp [hRest]

/-- A visit takes the first frames of a bucket. -/
theorem visit_append (roundBudget : Nat) (b : Bucket) :
    (b.visit roundBudget).1 ++ (b.visit roundBudget).2.queue = b.queue := by
  unfold visit
  split
  · next hQueue => simp [hQueue]
  · next frame rest hQueue =>
    have hSplit := affordable_append (frame :: rest) (b.deficit + roundBudget)
    dsimp only
    split_ifs with hNone
    · simp [hQueue]
    · rw [hQueue]
      exact hSplit

end Bucket

/-- Of a concatenation of streams, one stream can be filtered out again. -/
theorem filter_flatMap_streams {g : Nat → List Frame}
    (hStream : ∀ j, ∀ frame ∈ g j, frame.streamId = j) {order : List Nat} (hNodup : order.Nodup)
    (i : Nat) :
    ((order.flatMap g).filter fun frame => frame.streamId = i) =
      if i ∈ order then g i else [] := by
  induction order with
  | nil => rfl
  | cons j order ih =>
    obtain ⟨hNew, hNodup⟩ := List.nodup_cons.mp hNodup
    rw [List.flatMap_cons, List.filter_append, ih hNodup]
    by_cases hi : i = j
    · subst hi
      have hAll : (g i).filter (fun frame => frame.streamId = i) = g i :=
        List.filter_eq_self.mpr fun frame hMem => by simp [hStream i frame hMem]
      simp [hAll, hNew]
    · have hNone : (g j).filter (fun frame => frame.streamId = i) = [] := by
        rw [List.filter_eq_nil_iff]
        intro frame hMem
        rw [hStream j frame hMem]
        simpa using Ne.symm hi
      simp [hNone, hi]

namespace Scheduler

variable {s : Scheduler}

theorem ofStream_visited (s : Scheduler) (i : Nat) :
    (Bucket.ofStream s.visited i).queue =
      ((Bucket.ofStream s.buckets i).visit s.limits.roundBudget).2.queue := by
  unfold visited Bucket.ofStream
  rw [AList.lookup_retain, AList.lookup_mapValues]
  cases hBucket : s.buckets.lookup i with
  | none => rfl
  | some bucket =>
    simp only [Option.map_some, Option.filter_some, Option.getD_some]
    split_ifs with hReaped
    · rfl
    · -- a bucket that is dropped has nothing in it
      have hEmpty : (bucket.visit s.limits.roundBudget).2.queue = [] := by
        have hDropped : (bucket.visit s.limits.roundBudget).2.reaped = true := by
          simpa using hReaped
        rw [Bucket.reaped, Bool.and_eq_true] at hDropped
        simpa using hDropped.1
      rw [hEmpty]
      rfl

/-- No value holds a frame, exactly when no stream has one waiting. -/
theorem any_values_eq_false_iff (buckets : HashMap Nat Bucket) :
    (buckets.values.any fun b => !b.queue.isEmpty) = false ↔
      ∀ i, (Bucket.ofStream buckets i).queue = [] := by
  rw [List.any_eq_false]
  constructor
  · intro hAll i
    rw [Bucket.ofStream]
    cases hBucket : buckets.lookup i with
    | none => rfl
    | some bucket => simpa using hAll bucket (AList.mem_values_iff.mpr ⟨i, hBucket⟩)
  · intro hAll bucket hMem
    obtain ⟨i, hBucket⟩ := AList.mem_values_iff.mp hMem
    have hQueue := hAll i
    rw [Bucket.ofStream, hBucket] at hQueue
    simpa using hQueue

/-- What a round takes from one stream. -/
theorem filter_batch (hWf : s.Wf) {order : List Nat} (hOrder : order.Perm s.buckets.keys)
    (i : Nat) :
    ((s.batch order).filter fun frame => frame.streamId = i) =
      ((Bucket.ofStream s.buckets i).visit s.limits.roundBudget).1 := by
  have hStream (j : Nat) (frame : Frame)
      (hMem : frame ∈ ((Bucket.ofStream s.buckets j).visit s.limits.roundBudget).1) :
      frame.streamId = j := by
    refine (hWf.buckets j frame ?_).1
    rw [← Bucket.visit_append s.limits.roundBudget]
    exact List.mem_append_left _ hMem
  rw [batch, filter_flatMap_streams hStream (hOrder.nodup_iff.mpr s.buckets.keys_nodup)]
  split_ifs with hKnown
  · rfl
  · have hMissing : s.buckets.lookup i = none :=
      AList.lookup_eq_none.mpr fun hMem => hKnown (hOrder.mem_iff.mpr hMem)
    rw [Bucket.ofStream, hMissing]
    rfl

theorem serve_round (hWf : s.Wf) {order : List Nat} {quiet : Bool}
    (hWriter : s.writer = .control [] quiet) (hOrder : order.Perm s.buckets.keys) :
    s.lanes.Serve (s.round order).lanes := by
  simp only [round, hWriter, if_pos hOrder]
  refine ⟨by rw [lanes, hWriter]; rfl, ?_, rfl, rfl, rfl⟩
  intro i
  simp only [lanes, Writer.left]
  rw [filter_batch hWf hOrder, ofStream_visited, ← List.append_assoc, Bucket.visit_append]

/-- A round takes from the buckets. -/
theorem mem_bucket_of_round (hWf : s.Wf) {order : List Nat} {quiet : Bool}
    (hWriter : s.writer = .control [] quiet) (hOrder : order.Perm s.buckets.keys) {frame : Frame}
    (hMem : frame ∈ (s.round order).lanes.taken) :
    frame ∈ (Bucket.ofStream s.buckets frame.streamId).queue := by
  simp only [round, hWriter, if_pos hOrder, lanes, Writer.left] at hMem
  have hStream : frame ∈ (s.batch order).filter fun f => f.streamId = frame.streamId := by
    simpa using hMem
  rw [filter_batch hWf hOrder] at hStream
  rw [← Bucket.visit_append s.limits.roundBudget]
  exact List.mem_append_left _ hStream

theorem Wf.round (hWf : s.Wf) (order : List Nat) : (s.round order).Wf := by
  unfold Scheduler.round
  split
  · next quiet hWriter =>
    split_ifs
    · refine ⟨hWf.bulk, hWf.control, ?_, ?_⟩
      · intro i frame hMem
        apply hWf.buckets i frame
        rw [← Bucket.visit_append s.limits.roundBudget]
        rw [ofStream_visited] at hMem
        exact List.mem_append_right _ hMem
      · exact hWf.done_of_running (by simp [halted, hWriter])
    · exact hWf
  · exact hWf

/-! ### All steps -/

theorem Wf.step (hWf : s.Wf) (l : Label) : (s.step l).Wf := by
  cases l with
  | send frame =>
    simp only [Scheduler.step]
    split_ifs
    · exact hWf
    · exact hWf.send frame
  | dropIngress => exact ⟨hWf.bulk, hWf.control, hWf.buckets, hWf.done⟩
  | consume => exact hWf.consume
  | drain =>
    simp only [Scheduler.step, Scheduler.drain]
    split
    · next hWriter =>
      refine ⟨hWf.bulk, ?_, hWf.buckets, hWf.done_of_running (by simp [halted, hWriter])⟩
      exact fun frame hMem => hWf.control frame (List.mem_append_right _ hMem)
    · exact hWf
  | round order => exact hWf.round order
  | emit =>
    simp only [Scheduler.step, Scheduler.emit]
    split
    · next hWriter =>
      exact ⟨hWf.bulk, hWf.control, hWf.buckets,
        hWf.done_of_running (by simp [halted, hWriter])⟩
    · next hWriter =>
      exact ⟨hWf.bulk, hWf.control, hWf.buckets,
        hWf.done_of_running (by simp [halted, hWriter])⟩
    · exact hWf
  | turn =>
    simp only [Scheduler.step, Scheduler.turn]
    split
    · next hWriter =>
      have hRuns : s.halted = false := by simp [halted, hWriter]
      split_ifs <;> exact ⟨hWf.bulk, hWf.control, hWf.buckets, hWf.done_of_running hRuns⟩
    · exact hWf
  | wake =>
    simp only [Scheduler.step, Scheduler.wake]
    split
    · next hWriter =>
      have hRuns : s.halted = false := by simp [halted, hWriter]
      split_ifs
      · exact ⟨hWf.bulk, hWf.control, hWf.buckets, hWf.done_of_running hRuns⟩
      · exact hWf
    · exact hWf
  | writeFails =>
    simp only [Scheduler.step, Scheduler.writeFails]
    split
    · exact ⟨hWf.bulk, hWf.control, hWf.buckets, fun _ => by simp [halted]⟩
    · exact ⟨hWf.bulk, hWf.control, hWf.buckets, fun _ => by simp [halted]⟩
    · exact hWf
  | leave =>
    simp only [Scheduler.step, Scheduler.leave]
    split
    · exact ⟨hWf.bulk, hWf.control, hWf.buckets, fun _ => by simp [halted]⟩
    · exact hWf

/-- What goes out, and to whom, is the same. -/
structure SameOutput (s s' : Scheduler) : Prop where
  writer_eq : s'.writer = s.writer
  written_eq : s'.written = s.written
  accepted_eq : s'.accepted = s.accepted
  writerDone_eq : s'.writerDone = s.writerDone
  limits_eq : s'.limits = s.limits

theorem enqueueBucket_output (s : Scheduler) (frame : Frame) :
    SameOutput s (s.enqueueBucket frame) := by
  simp only [enqueueBucket]
  split_ifs <;> exact ⟨rfl, rfl, rfl, rfl, rfl⟩

/-- The consumer is not concerned with what goes out. -/
theorem consume_output (s : Scheduler) : SameOutput s s.consume := by
  obtain hSame | ⟨frame, rest, hControl, hEq⟩ | ⟨frame, hParked, hEq⟩ |
    ⟨frame, rest, hFree, hBulk, hEq⟩ := s.consume_cases
  · exact ⟨hSame.writer_eq, hSame.written_eq, hSame.accepted_eq, hSame.writerDone_eq,
      hSame.limits_eq⟩
  · rw [hEq]
    exact ⟨rfl, rfl, rfl, rfl, rfl⟩
  · rw [hEq]
    have hOutput := s.takePermit.enqueueBucket_output frame
    exact ⟨hOutput.writer_eq, hOutput.written_eq, hOutput.accepted_eq, hOutput.writerDone_eq,
      hOutput.limits_eq⟩
  · rw [hEq]
    split_ifs
    · have hOutput := (s.popBulk rest).enqueueBucket_output frame
      exact ⟨hOutput.writer_eq, hOutput.written_eq, hOutput.accepted_eq, hOutput.writerDone_eq,
        hOutput.limits_eq⟩
    · exact ⟨rfl, rfl, rfl, rfl, rfl⟩

/-- A writer that has ended does not come back. -/
theorem running_of_step {l : Label} (hRuns : (s.step l).halted = false) : s.halted = false := by
  by_contra hNot
  have hHalted : s.writer = .leaving ∨ s.writer = .stopped := by
    simpa [halted, or_iff_not_imp_left] using hNot
  have hSend (frame : Frame) : (s.send frame).writer = s.writer := by
    unfold send
    split_ifs <;> rfl
  have hKept : (s.step l).writer = s.writer ∨ (s.step l).writer = .stopped := by
    cases l with
    | send frame =>
      simp only [step]
      split_ifs
      · exact Or.inl rfl
      · exact Or.inl (hSend frame)
    | dropIngress => exact Or.inl rfl
    | consume => exact Or.inl s.consume_output.writer_eq
    | leave =>
      simp only [step, leave]
      rcases hHalted with hWriter | hWriter <;> simp [hWriter]
    | drain | round | emit | turn | wake | writeFails =>
      left
      simp only [step, drain, round, emit, turn, wake, writeFails]
      rcases hHalted with hWriter | hWriter <;> simp only [hWriter]
  rw [halted] at hRuns
  rcases hKept with hWriter | hWriter
  · rw [hWriter] at hRuns
    rcases hHalted with h | h <;> simp [h] at hRuns
  · simp [hWriter] at hRuns

/-- Every step of a running scheduler moves the lanes in one of four ways, or not at all. -/
theorem step_cases (hWf : s.Wf) (l : Label) (hRuns : (s.step l).halted = false) :
    (s.step l).lanes = s.lanes ∨
    (∃ frame, l = .send frame ∧ (s.step l).lanes = s.lanes.accept frame) ∨
    s.lanes.Drain (s.step l).lanes ∨
    (∃ order quiet, l = .round order ∧ s.writer = .control [] quiet ∧
      order.Perm s.buckets.keys ∧ s.lanes.Serve (s.step l).lanes) ∨
    ∃ frame, s.lanes.Emit (s.step l).lanes frame := by
  cases l with
  | send frame =>
    simp only [step] at hRuns ⊢
    by_cases hDropped : s.ingressDropped = true
    · rw [if_pos hDropped]
      exact Or.inl rfl
    · rw [if_neg hDropped]
      by_cases hRoom : s.hasRoom frame = true
      · exact Or.inr (Or.inl ⟨frame, rfl, lanes_send hRoom⟩)
      · rw [send, if_neg hRoom]
        exact Or.inl rfl
  | dropIngress => exact Or.inl rfl
  | consume =>
    have hWriter : s.halted = false := by
      rw [halted, ← s.consume_output.writer_eq]
      exact hRuns
    exact Or.inl (lanes_consume hWf (hWf.running hWriter))
  | drain =>
    simp only [step, drain]
    split
    · next hWriter =>
      refine Or.inr (Or.inr (Or.inl ⟨?_, rfl, rfl, rfl, rfl⟩))
      rw [lanes, hWriter]
      rfl
    · exact Or.inl rfl
  | round order =>
    by_cases hServed : (∃ quiet, s.writer = .control [] quiet) ∧ order.Perm s.buckets.keys
    · obtain ⟨⟨quiet, hWriter⟩, hOrder⟩ := hServed
      exact Or.inr (Or.inr (Or.inr (Or.inl
        ⟨order, quiet, rfl, hWriter, hOrder, serve_round hWf hWriter hOrder⟩)))
    · left
      simp only [step, round]
      split
      · next quiet hWriter => rw [if_neg fun hOrder => hServed ⟨⟨quiet, hWriter⟩, hOrder⟩]
      · rfl
  | emit =>
    simp only [step, emit]
    split
    · next frame left quiet hWriter =>
      refine Or.inr (Or.inr (Or.inr (Or.inr ⟨frame, ?_, rfl, rfl, rfl, rfl⟩)))
      rw [lanes, hWriter]
      rfl
    · next frame left empty moreWork quiet hWriter =>
      refine Or.inr (Or.inr (Or.inr (Or.inr ⟨frame, ?_, rfl, rfl, rfl, rfl⟩)))
      rw [lanes, hWriter]
      rfl
    · exact Or.inl rfl
  | turn =>
    left
    simp only [step, turn]
    split
    · next empty moreWork quiet hWriter =>
      simp only [lanes, hWriter]
      cases moreWork <;> cases empty <;> cases quiet <;> rfl
    · rfl
  | wake =>
    left
    simp only [step, wake]
    split
    · next hWriter =>
      split_ifs
      · simp only [lanes, hWriter]
        rfl
      · rfl
    · rfl
  | writeFails =>
    simp only [step, writeFails] at hRuns ⊢
    split at hRuns
    · simp [halted] at hRuns
    · simp [halted] at hRuns
    · exact Or.inl rfl
  | leave =>
    simp only [step, leave] at hRuns ⊢
    split at hRuns
    · simp [halted] at hRuns
    · exact Or.inl rfl

/-- Only a producer adds to what was accepted, and nothing changes the limits. -/
theorem step_ingress (s : Scheduler) (l : Label) :
    (s.step l).limits = s.limits ∧
      ((s.step l).accepted = s.accepted ∨
        ∃ frame, l = .send frame ∧ (s.step l).accepted = s.accepted ++ [frame]) := by
  cases l with
  | send frame =>
    simp only [step, send]
    split_ifs
    · exact ⟨rfl, Or.inl rfl⟩
    · exact ⟨rfl, Or.inr ⟨frame, rfl, rfl⟩⟩
    · exact ⟨rfl, Or.inr ⟨frame, rfl, rfl⟩⟩
    · exact ⟨rfl, Or.inl rfl⟩
  | dropIngress => exact ⟨rfl, Or.inl rfl⟩
  | consume => exact ⟨s.consume_output.limits_eq, Or.inl s.consume_output.accepted_eq⟩
  | round order =>
    simp only [step, round]
    split
    · split_ifs <;> exact ⟨rfl, Or.inl rfl⟩
    · exact ⟨rfl, Or.inl rfl⟩
  | turn | wake =>
    simp only [step, turn, wake]
    split
    · split_ifs <;> exact ⟨rfl, Or.inl rfl⟩
    · exact ⟨rfl, Or.inl rfl⟩
  | drain | emit | writeFails | leave =>
    simp only [step, drain, emit, writeFails, leave]
    split <;> exact ⟨rfl, Or.inl rfl⟩

/-- A writer that has ended writes nothing. -/
theorem written_of_halted {l : Label} (hHalted : (s.step l).halted = true) :
    (s.step l).written = s.written := by
  cases l with
  | send frame =>
    simp only [step, send]
    split_ifs <;> rfl
  | dropIngress => rfl
  | consume => exact s.consume_output.written_eq
  | round order =>
    simp only [step, round]
    split
    · split_ifs <;> rfl
    · rfl
  | emit =>
    simp only [step, emit] at hHalted ⊢
    split at hHalted
    · simp [halted] at hHalted
    · simp [halted] at hHalted
    · rfl
  | turn | wake =>
    simp only [step, turn, wake]
    split
    · split_ifs <;> rfl
    · rfl
  | drain | writeFails | leave =>
    simp only [step, drain, writeFails, leave]
    split <;> rfl

end Scheduler

end WaitAgent.Relay
