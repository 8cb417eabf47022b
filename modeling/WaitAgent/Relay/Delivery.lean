import WaitAgent.Relay.Egress

/-!
# Delivery by the scheduler

Every frame that the ingress has taken is written, in the hand of the writer, or in its
lane, in the order in which it came in.  So what has been written is the beginning of what
has been accepted, in each lane.  The writer leaves its loop by itself only after the
consumer has emptied both queues and has no frame parked, and after it has found the
priority queue and all buckets empty: then everything is written.
-/

namespace WaitAgent.Relay

open Verified Mux

/-- The bulk frames of stream `i`. -/
def bulkFrames (i : Nat) (frames : List Frame) : List Frame :=
  frames.filter fun frame => frame.isBulkOrdered && (frame.streamId = i)

def controlFrames (frames : List Frame) : List Frame :=
  frames.filter fun frame => !frame.isBulkOrdered

@[simp] theorem bulkFrames_append (i : Nat) (frames more : List Frame) :
    bulkFrames i (frames ++ more) = bulkFrames i frames ++ bulkFrames i more :=
  List.filter_append ..

@[simp] theorem controlFrames_append (frames more : List Frame) :
    controlFrames (frames ++ more) = controlFrames frames ++ controlFrames more :=
  List.filter_append ..

section

variable {frames : List Frame}

theorem bulkFrames_of_control (h : ∀ frame ∈ frames, frame.isBulkOrdered = false) (i : Nat) :
    bulkFrames i frames = [] := by
  rw [bulkFrames, List.filter_eq_nil_iff]
  intro frame hMem
  simp [h frame hMem]

theorem controlFrames_of_control (h : ∀ frame ∈ frames, frame.isBulkOrdered = false) :
    controlFrames frames = frames := by
  rw [controlFrames, List.filter_eq_self]
  intro frame hMem
  simp [h frame hMem]

theorem bulkFrames_of_bulk (h : ∀ frame ∈ frames, frame.isBulkOrdered = true) (i : Nat) :
    bulkFrames i frames = frames.filter fun frame => frame.streamId = i := by
  apply List.filter_congr
  intro frame hMem
  simp [h frame hMem]

theorem controlFrames_of_bulk (h : ∀ frame ∈ frames, frame.isBulkOrdered = true) :
    controlFrames frames = [] := by
  rw [controlFrames, List.filter_eq_nil_iff]
  intro frame hMem
  simp [h frame hMem]

end

/-! ## Nothing is lost in the lanes -/

namespace Lanes

variable {l l' : Lanes}

/-- Each lane holds its kind of frame. -/
structure Sorted (l : Lanes) : Prop where
  control : ∀ frame ∈ l.control, frame.isBulkOrdered = false
  bulk : ∀ i, ∀ frame ∈ l.bulk i, frame.isBulkOrdered = true

structure Conserves (l : Lanes) : Prop where
  bulk : ∀ i, bulkFrames i l.accepted = bulkFrames i (l.written ++ l.taken) ++ l.bulk i
  control : controlFrames l.accepted = controlFrames (l.written ++ l.taken) ++ l.control

theorem Conserves.accept (h : l.Conserves) (frame : Frame) : (l.accept frame).Conserves := by
  constructor
  · intro i
    simp only [Lanes.accept, bulkFrames_append, h.bulk i, List.append_assoc]
    by_cases hi : frame.isBulkOrdered = true ∧ frame.streamId = i
    · simp [bulkFrames, hi]
    · have hNot : bulkFrames i [frame] = [] := by
        simp only [bulkFrames, List.filter_eq_nil_iff, List.mem_singleton]
        rintro _ rfl
        simpa using hi
      rw [if_neg hi, hNot, List.append_nil]
  · simp only [Lanes.accept, controlFrames_append, h.control, List.append_assoc]
    cases hBulk : frame.isBulkOrdered <;> simp [controlFrames, hBulk]

theorem Conserves.drain (h : l.Conserves) (hSorted : l.Sorted) (hDrain : l.Drain l') :
    l'.Conserves := by
  have hTaken : ∀ frame ∈ l'.taken, frame.isBulkOrdered = false := by
    intro frame hMem
    apply hSorted.control
    rw [hDrain.control_eq]
    exact List.mem_append_left _ hMem
  constructor
  · intro i
    rw [hDrain.accepted_eq, h.bulk i, hDrain.idle, hDrain.written_eq, hDrain.bulk_eq]
    simp [bulkFrames_of_control hTaken]
  · rw [hDrain.accepted_eq, h.control, hDrain.idle, hDrain.written_eq, hDrain.control_eq]
    simp [controlFrames_of_control hTaken]

theorem Conserves.serve (h : l.Conserves) (hSorted : l.Sorted) (hServe : l.Serve l') :
    l'.Conserves := by
  have hTaken : ∀ frame ∈ l'.taken, frame.isBulkOrdered = true := by
    intro frame hMem
    apply hSorted.bulk frame.streamId
    rw [hServe.bulk_eq]
    exact List.mem_append_left _ (by simpa using hMem)
  constructor
  · intro i
    rw [hServe.accepted_eq, h.bulk i, hServe.idle, hServe.written_eq, hServe.bulk_eq i]
    simp [bulkFrames_of_bulk hTaken]
  · rw [hServe.accepted_eq, h.control, hServe.idle, hServe.written_eq, hServe.control_eq]
    simp [controlFrames_of_bulk hTaken]

theorem Conserves.emit (h : l.Conserves) {frame : Frame} (hEmit : l.Emit l' frame) :
    l'.Conserves := by
  have hGone : l'.written ++ l'.taken = l.written ++ l.taken := by
    rw [hEmit.written_eq, hEmit.taken_eq, List.append_assoc]
    rfl
  constructor
  · intro i
    rw [hEmit.accepted_eq, h.bulk i, hGone, hEmit.bulk_eq]
  · rw [hEmit.accepted_eq, h.control, hGone, hEmit.control_eq]

end Lanes

namespace Scheduler

variable {s : Scheduler}

theorem Wf.sorted (hWf : s.Wf) : s.lanes.Sorted where
  control := hWf.control
  bulk i frame hMem := by
    rcases List.mem_append.mp hMem with hBucket | hWaits
    · exact (hWf.buckets i frame hBucket).2
    · exact hWf.bulk frame (List.mem_filter.mp hWaits).1

theorem conserves_spawn (config : SchedulerConfig) : (spawn config).lanes.Conserves :=
  ⟨fun _ => rfl, rfl⟩

/-- As long as the writer runs, a step keeps every frame. -/
theorem conserves_step (hWf : s.Wf) (h : s.lanes.Conserves) {l : Label}
    (hRuns : (s.step l).halted = false) : (s.step l).lanes.Conserves := by
  obtain hSame | ⟨frame, rfl, hSent⟩ | hDrain | ⟨order, quiet, rfl, -, -, hServe⟩ |
    ⟨frame, hEmit⟩ := step_cases hWf l hRuns
  · rwa [hSame]
  · rw [hSent]
    exact h.accept frame
  · exact h.drain hWf.sorted hDrain
  · exact h.serve hWf.sorted hServe
  · exact h.emit hEmit

/-! ## In order -/

/-- What is written is the beginning of what was accepted, in each lane. -/
structure InOrder (s : Scheduler) : Prop where
  bulk : ∀ i, bulkFrames i s.written <+: bulkFrames i s.accepted
  control : controlFrames s.written <+: controlFrames s.accepted

theorem InOrder.of_conserves (h : s.lanes.Conserves) : s.InOrder where
  bulk i := by
    have hBulk := h.bulk i
    rw [bulkFrames_append, List.append_assoc] at hBulk
    exact ⟨_, hBulk.symm⟩
  control := by
    have hControl := h.control
    rw [controlFrames_append, List.append_assoc] at hControl
    exact ⟨_, hControl.symm⟩

structure DeliveryInv (s : Scheduler) : Prop where
  wf : s.Wf
  inOrder : s.InOrder
  running : s.halted = false → s.lanes.Conserves

theorem deliveryInv_spawn (config : SchedulerConfig) : (spawn config).DeliveryInv where
  wf := wf_spawn config
  inOrder := .of_conserves (conserves_spawn config)
  running _ := conserves_spawn config

theorem DeliveryInv.step (hInv : s.DeliveryInv) (l : Label) : (s.step l).DeliveryInv := by
  refine ⟨hInv.wf.step l, ?_, fun hRuns =>
    conserves_step hInv.wf (hInv.running (running_of_step hRuns)) hRuns⟩
  by_cases hHalted : (s.step l).halted = true
  · have hWritten := written_of_halted hHalted
    have hAccepted := (s.step_ingress l).2
    have hGrows : s.accepted <+: (s.step l).accepted := by
      rcases hAccepted with hAccepted | ⟨frame, -, hAccepted⟩
      · rw [hAccepted]
      · rw [hAccepted]
        exact List.prefix_append ..
    refine ⟨fun i => ?_, ?_⟩
    · rw [hWritten]
      exact (hInv.inOrder.bulk i).trans (hGrows.filter _)
    · rw [hWritten]
      exact hInv.inOrder.control.trans (hGrows.filter _)
  · have hRuns : (s.step l).halted = false := by simpa using hHalted
    exact .of_conserves (conserves_step hInv.wf (hInv.running (running_of_step hRuns)) hRuns)

/-! ## Flush -/

/-- The ingress is closed, and nothing waits for the writer any more. -/
def Emptied (s : Scheduler) : Prop :=
  s.ingressOpen = false ∧ s.priority = [] ∧ ∀ i, (Bucket.ofStream s.buckets i).queue = []

/-- The writer has seen that there is no more work. -/
def ending (s : Scheduler) : Bool :=
  match s.writer with
  | .bulk _ _ moreWork _ => !moreWork
  | .leaving | .stopped => true
  | .top | .control _ _ | .waiting => false

/-- What stands between the end of the producers and the end of the writer, on a socket that
does not fail. -/
structure Closing (s : Scheduler) : Prop where
  bulk : s.bulkClosed = true → s.bulk = [] ∧ s.ingressDropped = true
  control : s.controlClosed = true → s.control = [] ∧ s.ingressDropped = true
  consumer : s.ingressOpen = false →
    s.consumer = .done ∧ s.parked = none ∧ s.bulkClosed = true ∧ s.controlClosed = true
  writer : s.ending = true → s.Emptied

theorem closing_spawn (config : SchedulerConfig) : (spawn config).Closing :=
  ⟨nofun, nofun, nofun, nofun⟩

theorem Closing.dropped (h : s.Closing) (hOpen : s.ingressOpen = false) :
    s.ingressDropped = true :=
  (h.bulk (h.consumer hOpen).2.2.1).2

theorem Closing.send (h : s.Closing) (hDropped : s.ingressDropped = false) (frame : Frame) :
    (s.send frame).Closing := by
  have hOpen {p : Prop} (hClosed : s.ingressOpen = false) : p := by
    rw [h.dropped hClosed] at hDropped
    cases hDropped
  have hBulk {p : Prop} (hClosed : s.bulkClosed = true) : p := by
    rw [(h.bulk hClosed).2] at hDropped
    cases hDropped
  have hControl {p : Prop} (hClosed : s.controlClosed = true) : p := by
    rw [(h.control hClosed).2] at hDropped
    cases hDropped
  unfold Scheduler.send
  split_ifs
  · exact ⟨hBulk, h.control, h.consumer, fun hEnding => hOpen (h.writer hEnding).1⟩
  · exact ⟨h.bulk, hControl, h.consumer, fun hEnding => hOpen (h.writer hEnding).1⟩
  · exact h

/-- What the consumer does with a bulk frame does not concern the queues behind it. -/
theorem enqueueBucket_ingress (s : Scheduler) (frame : Frame) :
    (s.enqueueBucket frame).bulk = s.bulk ∧ (s.enqueueBucket frame).control = s.control ∧
      (s.enqueueBucket frame).bulkClosed = s.bulkClosed ∧
      (s.enqueueBucket frame).controlClosed = s.controlClosed ∧
      (s.enqueueBucket frame).ingressDropped = s.ingressDropped ∧
      (s.enqueueBucket frame).ingressOpen = s.ingressOpen ∧
      (s.enqueueBucket frame).writer = s.writer := by
  simp only [enqueueBucket]
  split_ifs <;> exact ⟨rfl, rfl, rfl, rfl, rfl, rfl, rfl⟩

theorem Closing.consume (h : s.Closing) : s.consume.Closing := by
  by_cases hClosed : s.ingressOpen = false
  · have hDone : s.consume = s := by
      rw [Scheduler.consume, (h.consumer hClosed).1]
    rwa [hDone]
  -- an ingress that is still open keeps the writer from seeing the end
  have hOpen {p : Prop} (hNot : s.ingressOpen = false) : p := absurd hNot hClosed
  have hEnding {p : Prop} (hEnding : s.ending = true) : p := hOpen (h.writer hEnding).1
  have hQueued {t : Scheduler} (frame : Frame) (hBulk : t.bulkClosed = true → t.bulk = [] ∧
      t.ingressDropped = true) (hControl : t.controlClosed = true → t.control = [] ∧
      t.ingressDropped = true) (hSame : t.ingressOpen = s.ingressOpen ∧ t.writer = s.writer) :
      (t.enqueueBucket frame).Closing ∧ ((t.enqueueBucket frame).atArm .spaceArm).Closing := by
    obtain ⟨hB, hC, hBC, hCC, hD, hO, hW⟩ := t.enqueueBucket_ingress frame
    have hFields : (t.enqueueBucket frame).Closing := by
      refine ⟨?_, ?_, ?_, ?_⟩
      · rw [hB, hBC, hD]
        exact hBulk
      · rw [hC, hCC, hD]
        exact hControl
      · rw [hO, hSame.1]
        exact hOpen
      · rw [ending, hW, hSame.2]
        exact hEnding
    exact ⟨hFields, hFields.bulk, hFields.control, by
      rw [atArm, hO, hSame.1]
      exact hOpen, by
      rw [ending, atArm, hW, hSame.2]
      exact hEnding⟩
  unfold Scheduler.consume
  split
  · unfold pollSpace
    split
    · next hParked =>
      split_ifs with hBoth
      · exact ⟨h.bulk, h.control, fun _ => ⟨rfl, hParked, hBoth.1, hBoth.2⟩, hEnding⟩
      · exact ⟨h.bulk, h.control, hOpen, hEnding⟩
    · next frame hParked =>
      split_ifs
      · exact (hQueued (t := s.takePermit) frame h.bulk h.control ⟨rfl, rfl⟩).1
      · exact ⟨h.bulk, h.control, hOpen, hEnding⟩
  · unfold pollControl
    by_cases hControl : s.controlClosed = true
    · rw [if_pos hControl]
      exact ⟨h.bulk, h.control, hOpen, hEnding⟩
    · rw [if_neg hControl]
      split
      · exact ⟨h.bulk, fun hNow => absurd hNow hControl, hOpen, hEnding⟩
      · next hEmpty =>
        split_ifs with hDropped
        · exact ⟨h.bulk, fun _ => ⟨hEmpty, hDropped⟩, hOpen, hEnding⟩
        · exact ⟨h.bulk, h.control, hOpen, hEnding⟩
  · unfold pollBulk
    by_cases hIdle : s.bulkClosed = true ∨ s.parked.isSome = true
    · rw [if_pos hIdle]
      exact ⟨h.bulk, h.control, hOpen, hEnding⟩
    · rw [if_neg hIdle]
      have hBulkOpen := (not_or.mp hIdle).1
      split
      · next frame rest hBulk =>
        split_ifs
        · exact (hQueued (t := s.popBulk rest) frame (fun hNow => absurd hNow hBulkOpen)
            h.control ⟨rfl, rfl⟩).2
        · exact ⟨fun hNow => absurd hNow hBulkOpen, h.control, hOpen, hEnding⟩
      · next hEmpty =>
        split_ifs with hDropped
        · exact ⟨fun _ => ⟨hEmpty, hDropped⟩, h.control, hOpen, hEnding⟩
        · exact ⟨h.bulk, h.control, hOpen, hEnding⟩
  · exact h

/-- A round that leaves no more work has found the ingress closed and leaves every bucket
empty. -/
theorem Closing.round (h : s.Closing) (order : List Nat) : (s.round order).Closing := by
  unfold Scheduler.round
  split
  · split_ifs
    · refine ⟨h.bulk, h.control, h.consumer, fun hEnding => ?_⟩
      simp only [ending, Bool.not_eq_true', Bool.or_eq_false_iff, Bool.not_eq_false',
        any_values_eq_false_iff] at hEnding
      obtain ⟨⟨hPriority, hBuckets⟩, hOpen⟩ := hEnding
      exact ⟨hOpen, by simpa using hPriority, hBuckets⟩
    · exact h
  · exact h

theorem Closing.step (h : s.Closing) {l : Label} (hSocket : l ≠ .writeFails) :
    (s.step l).Closing := by
  cases l with
  | send frame =>
    simp only [Scheduler.step]
    split_ifs with hDropped
    · exact h
    · exact h.send (by simpa using hDropped) frame
  | dropIngress =>
    exact ⟨fun hClosed => ⟨(h.bulk hClosed).1, rfl⟩, fun hClosed => ⟨(h.control hClosed).1, rfl⟩,
      h.consumer, h.writer⟩
  | consume => exact h.consume
  | drain =>
    simp only [Scheduler.step, drain]
    split
    · exact ⟨h.bulk, h.control, h.consumer, fun hEnding => Bool.noConfusion hEnding⟩
    · exact h
  | round order => exact h.round order
  | emit =>
    simp only [Scheduler.step, emit]
    split
    · exact ⟨h.bulk, h.control, h.consumer, fun hEnding => Bool.noConfusion hEnding⟩
    · next frame left empty moreWork quiet hWriter =>
      refine ⟨h.bulk, h.control, h.consumer, fun hEnding => h.writer ?_⟩
      rw [ending, hWriter]
      exact hEnding
    · exact h
  | turn =>
    simp only [Scheduler.step, turn]
    split
    · next empty moreWork quiet hWriter =>
      cases moreWork with
      | true =>
        refine ⟨h.bulk, h.control, h.consumer, fun hEnding => ?_⟩
        cases empty <;> cases quiet <;> cases hEnding
      | false =>
        refine ⟨h.bulk, h.control, h.consumer, fun _ => h.writer ?_⟩
        rw [ending, hWriter]
        rfl
    · exact h
  | wake =>
    simp only [Scheduler.step, wake]
    split
    · split_ifs
      · exact ⟨h.bulk, h.control, h.consumer, fun hEnding => Bool.noConfusion hEnding⟩
      · exact h
    · exact h
  | writeFails => exact absurd rfl hSocket
  | leave =>
    simp only [Scheduler.step, leave]
    split
    · next hWriter =>
      refine ⟨h.bulk, h.control, h.consumer, fun _ => h.writer ?_⟩
      rw [ending, hWriter]
    · exact h

/-- Once the writer has left its loop, everything stands still. -/
theorem lanes_of_halted (h : s.Closing) {l : Label} (hSocket : l ≠ .writeFails)
    (hHalted : (s.step l).halted = true) : (s.step l).lanes = s.lanes := by
  cases l with
  | send frame =>
    simp only [Scheduler.step] at hHalted ⊢
    split_ifs at hHalted with hDropped
    · rw [if_pos hDropped]
    · have hEnding : s.ending = true := by
        have hWriter : (s.send frame).writer = s.writer := by
          unfold send
          split_ifs <;> rfl
        rw [halted, hWriter] at hHalted
        unfold ending
        cases hCase : s.writer <;> simp_all
      exact absurd (h.dropped (h.writer hEnding).1) hDropped
  | dropIngress => rfl
  | consume =>
    have hEnding : s.ending = true := by
      have hWriter : s.consume.writer = s.writer := s.consume_output.writer_eq
      simp only [Scheduler.step] at hHalted
      rw [halted, hWriter] at hHalted
      unfold ending
      cases hCase : s.writer <;> simp_all
    simp only [Scheduler.step]
    rw [Scheduler.consume, (h.consumer (h.writer hEnding).1).1]
  | drain =>
    simp only [Scheduler.step, drain] at hHalted ⊢
    split at hHalted
    · simp [halted] at hHalted
    · rfl
  | round order =>
    simp only [Scheduler.step, Scheduler.round] at hHalted ⊢
    split at hHalted
    · next quiet hWriter =>
      split_ifs at hHalted with hOrder
      · simp [halted] at hHalted
      · simp [halted, hWriter] at hHalted
    · rfl
  | emit =>
    simp only [Scheduler.step, emit] at hHalted ⊢
    split at hHalted
    · simp [halted] at hHalted
    · simp [halted] at hHalted
    · rfl
  | turn =>
    simp only [Scheduler.step, turn]
    split
    · next empty moreWork quiet hWriter =>
      simp only [lanes, hWriter]
      cases moreWork <;> cases empty <;> cases quiet <;> rfl
    · rfl
  | wake =>
    simp only [Scheduler.step, wake] at hHalted ⊢
    split at hHalted
    · next hWriter =>
      split_ifs at hHalted
      · simp [halted] at hHalted
      · simp [halted, hWriter] at hHalted
    · rfl
  | writeFails => exact absurd rfl hSocket
  | leave =>
    simp only [Scheduler.step, leave]
    split
    · next hWriter =>
      simp only [lanes, hWriter]
      rfl
    · rfl

/-- On a socket that does not fail, no frame is lost at all. -/
structure FlushInv (s : Scheduler) : Prop where
  wf : s.Wf
  conserves : s.lanes.Conserves
  closing : s.Closing

theorem flushInv_spawn (config : SchedulerConfig) : (spawn config).FlushInv :=
  ⟨wf_spawn config, conserves_spawn config, closing_spawn config⟩

theorem FlushInv.step (hInv : s.FlushInv) {l : Label} (hSocket : l ≠ .writeFails) :
    (s.step l).FlushInv := by
  refine ⟨hInv.wf.step l, ?_, hInv.closing.step hSocket⟩
  by_cases hHalted : (s.step l).halted = true
  · rw [lanes_of_halted hInv.closing hSocket hHalted]
    exact hInv.conserves
  · exact conserves_step hInv.wf hInv.conserves (by simpa using hHalted)

theorem ending_of_halted (hHalted : s.halted = true) : s.ending = true := by
  rw [halted, Bool.or_eq_true, decide_eq_true_eq, decide_eq_true_eq] at hHalted
  rcases hHalted with hWriter | hWriter <;> rw [ending, hWriter]

/-- Everything that was accepted is written. -/
structure Flushed (s : Scheduler) : Prop where
  bulk : ∀ i, bulkFrames i s.written = bulkFrames i s.accepted
  control : controlFrames s.written = controlFrames s.accepted

theorem FlushInv.flushed (hInv : s.FlushInv) (hHalted : s.halted = true) : s.Flushed := by
  obtain ⟨hOpen, hPriority, hBuckets⟩ := hInv.closing.writer (ending_of_halted hHalted)
  obtain ⟨-, hParked, hBulkClosed, hControlClosed⟩ := hInv.closing.consumer hOpen
  have hTaken : s.lanes.taken = [] := by
    unfold halted at hHalted
    simp only [lanes]
    cases hCase : s.writer <;> simp_all [Writer.left]
  constructor
  · intro i
    have hBulk : s.lanes.bulk i = [] := by
      simp [lanes, hBuckets i, hParked, (hInv.closing.bulk hBulkClosed).1]
    have hAll := hInv.conserves.bulk i
    rw [hTaken, hBulk, List.append_nil, List.append_nil] at hAll
    exact hAll.symm
  · have hControl : s.lanes.control = [] := by
      simp [lanes, hPriority, (hInv.closing.control hControlClosed).1]
    have hAll := hInv.conserves.control
    rw [hTaken, hControl, List.append_nil, List.append_nil] at hAll
    exact hAll.symm

/-- What goes out is the beginning of what came in, in each lane; and all of it, once the
writer has ended on a socket that has not failed. -/
theorem scheduler_delivers (config : SchedulerConfig) (labels : List Label) :
    (run step (spawn config) labels).InOrder ∧
      (.writeFails ∉ labels → (run step (spawn config) labels).halted = true →
        (run step (spawn config) labels).Flushed) := by
  constructor
  · exact (run_invariant (I := DeliveryInv) (fun _ l hInv => hInv.step l) labels _
      (deliveryInv_spawn config)).inOrder
  · intro hSocket hHalted
    have hStep (s : Scheduler) (l : Label) (hMem : l ∈ labels) (hInv : s.FlushInv) :
        (s.step l).FlushInv := by
      apply hInv.step
      rintro rfl
      exact hSocket hMem
    exact (run_invariant_mem labels hStep _ (flushInv_spawn config)).flushed hHalted

/-- A byte, a heartbeat and a close come in, and the producers go. -/
def lastFrames : List Label :=
  [.send (.data 2 [7]), .send .heartbeat, .send (.close 2), .dropIngress]

/-- The consumer classifies them and ends; the writer writes them, looks once more, and
leaves. -/
def flush : List Label :=
  List.replicate 16 .consume ++
    [.drain, .emit, .round [2], .emit, .emit, .turn, .drain, .round [2], .turn, .leave]

theorem last_frames_flushed :
    (run step (spawn {}) (lastFrames ++ flush)).halted = true ∧
      (run step (spawn {}) (lastFrames ++ flush)).Flushed :=
  ⟨by decide, (scheduler_delivers {} (lastFrames ++ flush)).2 (by decide) (by decide)⟩

end Scheduler

end WaitAgent.Relay
