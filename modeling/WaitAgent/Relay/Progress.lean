import WaitAgent.Relay.Fairness

/-!
# Progress of the scheduler

Each of the two tasks waits for a signal of the other, and a signal is a single stored
permit.  The consumer leaves a permit with everything that it classifies, so that the writer
waits without one only when it has seen everything.  A frame is parked only while some
bucket holds frames: an empty scheduler takes a frame of any size.  So a writer that waits
without a permit leaves no frame parked without one, and neither does a writer that has
ended.
-/

namespace WaitAgent.Relay

open Verified Mux

/-! ## Accounts -/

namespace Bucket

theorem bytes_append (frames more : List Frame) :
    bytes (frames ++ more) = bytes frames + bytes more := by
  simp [bytes]

theorem bytes_flatMap (g : Nat → List Frame) (order : List Nat) :
    bytes (order.flatMap g) = (order.map fun i => bytes (g i)).sum := by
  induction order with
  | nil => rfl
  | cons i order ih => simp [bytes_append, ih]

/-- The counter of a bucket is right. -/
def Counted (b : Bucket) : Prop :=
  b.queuedBytes = bytes b.queue

theorem Counted.visit {b : Bucket} (h : b.Counted) (roundBudget : Nat) :
    (b.visit roundBudget).2.Counted := by
  have hSplit := congrArg bytes (visit_append roundBudget b)
  rw [bytes_append] at hSplit
  unfold Counted at h ⊢
  unfold Bucket.visit at hSplit ⊢
  split
  · exact h
  · next frame rest hQueue =>
    simp only [hQueue] at hSplit
    dsimp only at hSplit ⊢
    split_ifs at hSplit ⊢ with hNone
    · simp only [bytes_cons, bytes_nil] at hSplit ⊢
      rw [h, hQueue, bytes_cons]
      omega
    · rw [h, hQueue]
      simp only at hSplit ⊢
      omega

end Bucket

namespace Scheduler

variable {s : Scheduler}

/-- The counters of the buckets are right, and so is their sum. -/
structure Accounted (s : Scheduler) : Prop where
  buckets : ∀ i, (Bucket.ofStream s.buckets i).Counted
  total : s.totalBucketBytes = s.buckets.sumValues fun b => Bucket.bytes b.queue

/-- Some bucket holds a frame. -/
def Backlog (s : Scheduler) : Prop :=
  ∃ i, (Bucket.ofStream s.buckets i).queue ≠ []

/-- Without backlog all counters are 0. -/
theorem Accounted.of_not_backlog (h : s.Accounted) (hNone : ¬ s.Backlog) :
    s.totalBucketBytes = 0 ∧ ∀ i, (Bucket.ofStream s.buckets i).queuedBytes = 0 := by
  have hEmpty (i : Nat) : (Bucket.ofStream s.buckets i).queue = [] := by
    by_contra hQueue
    exact hNone ⟨i, hQueue⟩
  constructor
  · rw [h.total, AList.sumValues, List.sum_eq_zero_iff_forall_eq_nat]
    intro n hMem
    obtain ⟨b, hValue, rfl⟩ := List.mem_map.mp hMem
    obtain ⟨i, hLookup⟩ := AList.mem_values_iff.mp hValue
    have hQueue := hEmpty i
    rw [Bucket.ofStream, hLookup] at hQueue
    simp only [Option.getD_some] at hQueue
    rw [hQueue]
    rfl
  · intro i
    rw [h.buckets i, hEmpty i]
    rfl

/-- A bucket is replaced by one that holds `more` bytes. -/
theorem Accounted.insert (h : s.Accounted) (i more : Nat) {b : Bucket} (hCounted : b.Counted)
    (hBytes : Bucket.bytes b.queue = Bucket.bytes (Bucket.ofStream s.buckets i).queue + more) :
    (∀ j, (Bucket.ofStream (s.buckets.insert i b) j).Counted) ∧
      s.totalBucketBytes + more =
        (s.buckets.insert i b).sumValues fun b => Bucket.bytes b.queue := by
  constructor
  · intro j
    rw [ofStream_insert]
    split_ifs
    · exact hCounted
    · exact h.buckets j
  · have hSum := AList.sumValues_insert (fun b => Bucket.bytes b.queue) s.buckets i b
    have hOld : ((s.buckets.lookup i).map fun b => Bucket.bytes b.queue).getD 0 =
        Bucket.bytes (Bucket.ofStream s.buckets i).queue := by
      rw [Bucket.ofStream]
      cases s.buckets.lookup i <;> rfl
    rw [hOld] at hSum
    rw [h.total]
    omega

theorem Accounted.enqueueBucket (h : s.Accounted) (frame : Frame) :
    (s.enqueueBucket frame).Accounted := by
  simp only [Scheduler.enqueueBucket]
  split_ifs with hDone hFits
  · exact ⟨h.buckets, h.total⟩
  · have hCounted := h.buckets frame.streamId
    set bucket := Bucket.ofStream s.buckets frame.streamId with hBucket
    have hGrown : Bucket.Counted
        { bucket with
          queue := bucket.queue ++ [frame], queuedBytes := bucket.queuedBytes + frame.payloadLen
          idlePasses := 0 } := by
      unfold Bucket.Counted at hCounted ⊢
      rw [hCounted, Bucket.bytes_append]
      simp
    obtain ⟨hBuckets, hTotal⟩ := h.insert frame.streamId frame.payloadLen hGrown
      (by simp [Bucket.bytes_append, hBucket])
    exact ⟨hBuckets, hTotal⟩
  · obtain ⟨hBuckets, hTotal⟩ := h.insert frame.streamId 0 (h.buckets frame.streamId) rfl
    exact ⟨hBuckets, hTotal⟩

theorem bytes_visits (roundBudget : Nat) (buckets : List Bucket) :
    (buckets.map fun b => Bucket.bytes b.queue).sum =
      (buckets.map fun b => Bucket.bytes (b.visit roundBudget).1).sum +
        (buckets.map fun b => Bucket.bytes (b.visit roundBudget).2.queue).sum := by
  induction buckets with
  | nil => rfl
  | cons b buckets ih =>
    have hSplit := congrArg Bucket.bytes (Bucket.visit_append roundBudget b)
    rw [Bucket.bytes_append] at hSplit
    simp only [List.map_cons, List.sum_cons]
    omega

/-- What a round takes weighs as much as what leaves the buckets. -/
theorem bytes_batch {order : List Nat} (hOrder : order.Perm s.buckets.keys) :
    Bucket.bytes (s.batch order) =
      (s.buckets.values.map fun b => Bucket.bytes (b.visit s.limits.roundBudget).1).sum := by
  have hKeys := AList.map_lookup_keys
    (fun b => Bucket.bytes ((b.getD {}).visit s.limits.roundBudget).1) s.buckets
  rw [batch, Bucket.bytes_flatMap, (hOrder.map _).sum_nat]
  exact congrArg List.sum hKeys

theorem Accounted.visited (h : s.Accounted) (i : Nat) :
    (Bucket.ofStream s.visited i).Counted := by
  have hCounted := h.buckets i
  simp only [Scheduler.visited, Bucket.ofStream, AList.lookup_retain, AList.lookup_mapValues]
  rw [Bucket.ofStream] at hCounted
  cases hBucket : s.buckets.lookup i with
  | none => exact (rfl : Bucket.Counted {})
  | some b =>
    rw [hBucket] at hCounted
    simp only [Option.map_some, Option.filter_some]
    split_ifs
    · exact Bucket.Counted.visit hCounted s.limits.roundBudget
    · exact (rfl : Bucket.Counted {})

theorem Accounted.round (h : s.Accounted) (order : List Nat) : (s.round order).Accounted := by
  unfold Scheduler.round
  split
  · split_ifs with hOrder
    · have hReaped (i : Nat) (b : Bucket) (hDropped : (!b.reaped) = false) :
          Bucket.bytes b.queue = 0 := by
        rw [Bool.not_eq_false', Bucket.reaped, Bool.and_eq_true] at hDropped
        rw [List.isEmpty_iff.mp hDropped.1]
        rfl
      constructor
      · exact h.visited
      · have hSplit := bytes_visits s.limits.roundBudget s.buckets.values
        have hLeft : (s.visited.sumValues fun b => Bucket.bytes b.queue) =
            (s.buckets.values.map fun b =>
              Bucket.bytes (b.visit s.limits.roundBudget).2.queue).sum := by
          rw [Scheduler.visited, AList.sumValues_retain _ _ _ hReaped, AList.sumValues_mapValues]
          simp [AList.values, Function.comp_def]
        have hTotal := h.total
        simp only at hTotal ⊢
        rw [bytes_batch hOrder, hLeft, hTotal, AList.sumValues, hSplit]
        omega
    · exact h
  · exact h

/-! ## Signals -/

/-- Neither task waits for a permit that nobody will leave. -/
structure Progress (s : Scheduler) : Prop where
  /-- A writer that waits without a permit has seen everything. -/
  writer : s.writer = .waiting → s.workAvailable = false →
    s.priority = [] ∧ ¬ s.Backlog ∧ s.ingressOpen = true
  /-- A frame is not left parked by a writer that waits, nor by one that has ended. -/
  consumer : s.parked.isSome = true → s.spaceFreed = false →
    ¬ (s.writer = .waiting ∧ s.workAvailable = false) ∧ s.writer ≠ .stopped

/-- What the writer has missed, as far as it has come, has left it a permit. -/
def Watched (s : Scheduler) : Prop :=
  s.workAvailable = false →
    match s.writer with
    | .control _ _ => s.priority = []
    | .bulk _ empty moreWork _ => s.priority = [] ∧
        (empty = true → ¬ s.Backlog ∧ (moreWork = true → s.ingressOpen = true))
    | .waiting => s.priority = [] ∧ ¬ s.Backlog ∧ s.ingressOpen = true
    | .top | .leaving | .stopped => True

structure ProgressInv (s : Scheduler) : Prop where
  accounted : s.Accounted
  capacity : maxFramePayload ≤ s.limits.bucketCapacity ∧
    s.limits.bucketCapacity ≤ s.limits.linkBudget
  small : ∀ frame ∈ s.parked.toList ++ s.bulk, frame.payloadLen ≤ maxFramePayload
  watched : s.Watched
  parked : s.parked.isSome = true → s.spaceFreed = false → s.Backlog ∧ s.writerDone = false
  stopped : s.writer = .stopped → s.writerDone = true

theorem ProgressInv.progress (hInv : s.ProgressInv) : s.Progress := by
  constructor
  · intro hWriter hPermit
    have hWatched := hInv.watched hPermit
    rwa [hWriter] at hWatched
  · intro hParked hSpace
    obtain ⟨hBacklog, hDone⟩ := hInv.parked hParked hSpace
    constructor
    · rintro ⟨hWriter, hPermit⟩
      have hWatched := hInv.watched hPermit
      rw [hWriter] at hWatched
      exact hWatched.2.1 hBacklog
    · intro hWriter
      rw [hInv.stopped hWriter] at hDone
      cases hDone

theorem progressInv_spawn (config : SchedulerConfig) : (spawn config).ProgressInv where
  accounted := ⟨fun _ => rfl, rfl⟩
  capacity := ⟨le_max_right .., le_max_right ..⟩
  small := nofun
  watched := fun _ => trivial
  parked := nofun
  stopped := nofun

/-! ### The consumer -/

/-- A frame is parked only while some bucket holds frames. -/
theorem backlog_of_parked (hAccounted : s.Accounted)
    (hCapacity : maxFramePayload ≤ s.limits.bucketCapacity ∧
      s.limits.bucketCapacity ≤ s.limits.linkBudget) {frame : Frame}
    (hSmall : frame.payloadLen ≤ maxFramePayload)
    (hParked : (s.enqueueBucket frame).parked.isSome = true) :
    (s.enqueueBucket frame).Backlog ∧ (s.enqueueBucket frame).writerDone = false := by
  have hBacklog : ¬ (Bucket.queuedBytes (Bucket.ofStream s.buckets frame.streamId) +
      frame.payloadLen ≤ s.limits.bucketCapacity ∧
      s.totalBucketBytes + frame.payloadLen ≤ s.limits.linkBudget) → s.Backlog := by
    intro hFull
    by_contra hNone
    obtain ⟨hTotal, hBucket⟩ := hAccounted.of_not_backlog hNone
    rw [hTotal, hBucket] at hFull
    omega
  simp only [enqueueBucket] at hParked ⊢
  split_ifs at hParked ⊢ with hDone hFits
  · cases hParked
  · cases hParked
  · obtain ⟨i, hQueue⟩ := hBacklog hFits
    refine ⟨⟨i, ?_⟩, by simpa using hDone⟩
    rw [ofStream_insert]
    split_ifs with hi
    · rwa [hi] at hQueue
    · exact hQueue

/-- Between the two states the writer is left a permit, or nothing more to see. -/
def Signals (s s' : Scheduler) : Prop :=
  s'.workAvailable = true ∨
    (s'.workAvailable = s.workAvailable ∧ s'.ingressOpen = s.ingressOpen ∧
      s'.priority = s.priority ∧ (s'.Backlog → s.Backlog))

theorem signals_enqueueBucket (s : Scheduler) (frame : Frame) :
    s.Signals (s.enqueueBucket frame) := by
  simp only [enqueueBucket]
  split_ifs
  · exact Or.inr ⟨rfl, rfl, rfl, id⟩
  · exact Or.inl rfl
  · refine Or.inr ⟨rfl, rfl, rfl, ?_⟩
    rintro ⟨i, hQueue⟩
    refine ⟨i, ?_⟩
    rw [ofStream_insert] at hQueue
    split_ifs at hQueue with hi
    · rwa [hi]
    · exact hQueue

theorem signals_consume (s : Scheduler) : s.Signals s.consume := by
  unfold consume
  split
  · unfold pollSpace
    split
    · split_ifs
      · exact Or.inl rfl
      · exact Or.inr ⟨rfl, rfl, rfl, id⟩
    · next frame _ =>
      split_ifs
      · exact s.takePermit.signals_enqueueBucket frame
      · exact Or.inr ⟨rfl, rfl, rfl, id⟩
  · unfold pollControl
    by_cases hClosed : s.controlClosed = true
    · rw [if_pos hClosed]
      exact Or.inr ⟨rfl, rfl, rfl, id⟩
    · rw [if_neg hClosed]
      split
      · exact Or.inl rfl
      · split_ifs <;> exact Or.inr ⟨rfl, rfl, rfl, id⟩
  · unfold pollBulk
    by_cases hIdle : s.bulkClosed = true ∨ s.parked.isSome = true
    · rw [if_pos hIdle]
      exact Or.inr ⟨rfl, rfl, rfl, id⟩
    · rw [if_neg hIdle]
      split
      · next frame rest _ =>
        split_ifs
        · exact (s.popBulk rest).signals_enqueueBucket frame
        · exact Or.inl rfl
      · split_ifs <;> exact Or.inr ⟨rfl, rfl, rfl, id⟩
  · exact Or.inr ⟨rfl, rfl, rfl, id⟩

theorem Watched.of_signals (h : s.Watched) {s' : Scheduler} (hSignals : s.Signals s')
    (hWriter : s'.writer = s.writer) : s'.Watched := by
  intro hPermit
  rcases hSignals with hLeft | ⟨hSame, hOpen, hPriority, hBacklog⟩
  · rw [hLeft] at hPermit
    cases hPermit
  · have hWatched := h (hSame ▸ hPermit)
    rw [hWriter, hOpen, hPriority]
    cases hCase : s.writer with
    | control left quiet =>
      rw [hCase] at hWatched
      exact hWatched
    | bulk left empty moreWork quiet =>
      rw [hCase] at hWatched
      exact ⟨hWatched.1, fun hEmpty =>
        ⟨fun h => (hWatched.2 hEmpty).1 (hBacklog h), (hWatched.2 hEmpty).2⟩⟩
    | waiting =>
      rw [hCase] at hWatched
      exact ⟨hWatched.1, fun h => hWatched.2.1 (hBacklog h), hWatched.2.2⟩
    | top | leaving | stopped => trivial

/-- The frame that the consumer offers to its bucket is one that it holds. -/
theorem ProgressInv.enqueueBucket {t : Scheduler} {frame : Frame} (hAccounted : t.Accounted)
    (hCapacity : maxFramePayload ≤ t.limits.bucketCapacity ∧
      t.limits.bucketCapacity ≤ t.limits.linkBudget)
    (hSmall : ∀ f ∈ frame :: t.bulk, f.payloadLen ≤ maxFramePayload) :
    (∀ f ∈ (t.enqueueBucket frame).parked.toList ++ (t.enqueueBucket frame).bulk,
      f.payloadLen ≤ maxFramePayload) ∧
    ((t.enqueueBucket frame).parked.isSome = true →
      (t.enqueueBucket frame).Backlog ∧ (t.enqueueBucket frame).writerDone = false) := by
  refine ⟨?_, backlog_of_parked hAccounted hCapacity (hSmall frame List.mem_cons_self)⟩
  intro f hMem
  apply hSmall f
  simp only [Scheduler.enqueueBucket] at hMem
  split_ifs at hMem
  · exact List.mem_cons_of_mem _ hMem
  · exact List.mem_cons_of_mem _ hMem
  · exact hMem

theorem ProgressInv.consume (hInv : s.ProgressInv) : s.consume.ProgressInv := by
  have hOutput := s.consume_output
  have hWatched := hInv.watched.of_signals s.signals_consume hOutput.writer_eq
  have hCapacity := hInv.capacity
  rw [← hOutput.limits_eq] at hCapacity
  have hStopped := hInv.stopped
  rw [← hOutput.writer_eq, ← hOutput.writerDone_eq] at hStopped
  obtain hSame | ⟨frame, rest, hControl, hEq⟩ | ⟨frame, hParked, hEq⟩ |
    ⟨frame, rest, hFree, hBulk, hEq⟩ := s.consume_cases
  · refine ⟨⟨?_, ?_⟩, hCapacity, ?_, hWatched, ?_, hStopped⟩
    · rw [hSame.buckets_eq]
      exact hInv.accounted.buckets
    · rw [hSame.totalBucketBytes_eq, hSame.buckets_eq]
      exact hInv.accounted.total
    · rw [hSame.parked_eq, hSame.bulk_eq]
      exact hInv.small
    · rw [hSame.parked_eq, hSame.spaceFreed_eq, hSame.writerDone_eq, Backlog, hSame.buckets_eq]
      exact hInv.parked
  · rw [hEq] at hWatched hCapacity hStopped ⊢
    exact ⟨⟨hInv.accounted.buckets, hInv.accounted.total⟩, hCapacity, hInv.small, hWatched,
      hInv.parked, hStopped⟩
  · have hOffer : ∀ f ∈ frame :: s.bulk, f.payloadLen ≤ maxFramePayload := by
      have hSmall := hInv.small
      rwa [hParked] at hSmall
    have hAccounted : s.takePermit.Accounted := ⟨hInv.accounted.buckets, hInv.accounted.total⟩
    obtain ⟨hSmall, hPark⟩ := ProgressInv.enqueueBucket hAccounted hInv.capacity hOffer
    rw [hEq] at hWatched hCapacity hStopped ⊢
    exact ⟨hAccounted.enqueueBucket frame, hCapacity, hSmall, hWatched, fun h _ => hPark h,
      hStopped⟩
  · have hOffer : ∀ f ∈ frame :: rest, f.payloadLen ≤ maxFramePayload := by
      have hSmall := hInv.small
      rwa [hFree, hBulk] at hSmall
    have hAccounted : (s.popBulk rest).Accounted := ⟨hInv.accounted.buckets, hInv.accounted.total⟩
    rw [hEq] at hWatched hCapacity hStopped ⊢
    by_cases hOrdered : frame.isBulkOrdered = true
    · obtain ⟨hSmall, hPark⟩ := ProgressInv.enqueueBucket hAccounted hInv.capacity hOffer
      have hQueued := hAccounted.enqueueBucket frame
      rw [if_pos hOrdered] at hWatched hCapacity hStopped ⊢
      exact ⟨⟨hQueued.buckets, hQueued.total⟩, hCapacity, hSmall, hWatched, fun h _ => hPark h,
        hStopped⟩
    · rw [if_neg hOrdered] at hWatched hCapacity hStopped ⊢
      refine ⟨⟨hInv.accounted.buckets, hInv.accounted.total⟩, hCapacity, ?_, hWatched,
        hInv.parked, hStopped⟩
      intro f hMem
      simp only [atArm, classify, popBulk, hFree] at hMem
      exact hOffer f (List.mem_cons_of_mem _ hMem)

/-! ### The other steps -/

theorem ProgressInv.send (hInv : s.ProgressInv) {frame : Frame}
    (hSmall : frame.payloadLen ≤ maxFramePayload) : (s.send frame).ProgressInv := by
  unfold Scheduler.send
  split_ifs
  · refine ⟨⟨hInv.accounted.buckets, hInv.accounted.total⟩, hInv.capacity, ?_, hInv.watched,
      hInv.parked, hInv.stopped⟩
    intro f hMem
    rw [← List.append_assoc, List.mem_append, List.mem_singleton] at hMem
    rcases hMem with hOld | rfl
    · exact hInv.small f hOld
    · exact hSmall
  · exact ⟨⟨hInv.accounted.buckets, hInv.accounted.total⟩, hInv.capacity, hInv.small,
      hInv.watched, hInv.parked, hInv.stopped⟩
  · exact hInv

theorem batch_ne_nil {order : List Nat} (hOrder : order.Perm s.buckets.keys) (h : s.Backlog) :
    s.batch order ≠ [] := by
  obtain ⟨i, hQueue⟩ := h
  have hKnown : i ∈ order := by
    rw [hOrder.mem_iff]
    by_contra hMissing
    have hNone : s.buckets.lookup i = none := AList.lookup_eq_none.mpr hMissing
    rw [Bucket.ofStream, hNone] at hQueue
    exact hQueue rfl
  intro hEmpty
  rw [batch, List.flatMap_eq_nil_iff] at hEmpty
  exact Bucket.visit_ne_nil _ hQueue (hEmpty i hKnown)

/-- A round frees budget if there is any backlog, and takes note of everything. -/
theorem ProgressInv.round (hInv : s.ProgressInv) (order : List Nat) :
    (s.round order).ProgressInv := by
  have hAccounted := hInv.accounted.round order
  unfold Scheduler.round at hAccounted ⊢
  split at hAccounted
  · next quiet hWriter =>
    dsimp only at hAccounted ⊢
    split_ifs at hAccounted ⊢ with hOrder
    · have hGone : (s.batch order).isEmpty = true → ¬ s.Backlog := by
        intro hEmpty hBacklog
        exact batch_ne_nil hOrder hBacklog (List.isEmpty_iff.mp hEmpty)
      have hVisited (i : Nat) : (Bucket.ofStream s.visited i).queue ≠ [] →
          (Bucket.ofStream s.buckets i).queue ≠ [] := by
        intro hLeft hNone
        apply hLeft
        have hSplit := Bucket.visit_append s.limits.roundBudget (Bucket.ofStream s.buckets i)
        rw [hNone, List.append_eq_nil_iff] at hSplit
        rw [ofStream_visited, hSplit.2]
      refine ⟨hAccounted, hInv.capacity, hInv.small, ?_, ?_, nofun⟩
      · intro hPermit
        have hPriority : s.priority = [] := by
          have hWatched := hInv.watched hPermit
          rwa [hWriter] at hWatched
        refine ⟨hPriority, fun hEmpty => ?_⟩
        have hNone (i : Nat) : (Bucket.ofStream s.visited i).queue = [] := by
          by_contra hQueue
          exact hGone hEmpty ⟨i, hVisited i hQueue⟩
        refine ⟨fun ⟨i, hQueue⟩ => hQueue (hNone i), fun hMore => ?_⟩
        rw [(any_values_eq_false_iff _).mpr hNone, hPriority] at hMore
        simpa using hMore
      · intro hParked hSpace
        simp only [Bool.or_eq_false_iff, Bool.not_eq_false'] at hSpace
        exact absurd (hInv.parked hParked hSpace.1).1 (hGone hSpace.2)
    · exact hInv
  · exact hInv

theorem ProgressInv.step (hInv : s.ProgressInv) {l : Label}
    (hFrame : ∀ frame, l = .send frame → frame.payloadLen ≤ maxFramePayload) :
    (s.step l).ProgressInv := by
  -- a step of the writer that leaves the queues alone
  have hTurn (t : Scheduler) (hSame : t = { s with writer := t.writer, written := t.written })
      (hWatched : t.Watched) (hRuns : t.writer ≠ .stopped) : t.ProgressInv := by
    rw [hSame] at hWatched ⊢
    exact ⟨⟨hInv.accounted.buckets, hInv.accounted.total⟩, hInv.capacity, hInv.small, hWatched,
      hInv.parked, fun h => absurd h hRuns⟩
  cases l with
  | send frame =>
    simp only [Scheduler.step]
    split_ifs
    · exact hInv
    · exact hInv.send (hFrame frame rfl)
  | dropIngress =>
    exact ⟨⟨hInv.accounted.buckets, hInv.accounted.total⟩, hInv.capacity, hInv.small,
      hInv.watched, hInv.parked, hInv.stopped⟩
  | consume => exact hInv.consume
  | drain =>
    simp only [Scheduler.step, drain]
    split
    · exact ⟨⟨hInv.accounted.buckets, hInv.accounted.total⟩, hInv.capacity, hInv.small,
        fun _ => rfl, hInv.parked, fun hEnded => by cases hEnded⟩
    · exact hInv
  | round order => exact hInv.round order
  | emit =>
    simp only [Scheduler.step, emit]
    split
    · next frame left quiet hWriter =>
      refine hTurn _ rfl (fun hPermit => ?_) (by simp)
      have hWatched := hInv.watched hPermit
      rwa [hWriter] at hWatched
    · next frame left empty moreWork quiet hWriter =>
      refine hTurn _ rfl (fun hPermit => ?_) (by simp)
      have hWatched := hInv.watched hPermit
      rwa [hWriter] at hWatched
    · exact hInv
  | turn =>
    simp only [Scheduler.step, turn]
    split
    · next empty moreWork quiet hWriter =>
      cases moreWork with
      | false =>
        cases empty with
        | false => exact hTurn _ rfl (fun _ => trivial) (by simp)
        | true => exact hTurn _ rfl (fun _ => trivial) (by simp)
      | true =>
        cases hIdle : empty && quiet with
        | false => exact hTurn _ rfl (fun _ => trivial) (by simp)
        | true =>
          refine hTurn _ rfl (fun hPermit => ?_) (by simp)
          have hWatched := hInv.watched hPermit
          rw [hWriter] at hWatched
          have hEmpty : empty = true := (Bool.and_eq_true_iff.mp hIdle).1
          exact ⟨hWatched.1, (hWatched.2 hEmpty).1, (hWatched.2 hEmpty).2 rfl⟩
    · exact hInv
  | wake =>
    simp only [Scheduler.step, wake]
    split
    · split_ifs
      · exact ⟨⟨hInv.accounted.buckets, hInv.accounted.total⟩, hInv.capacity, hInv.small,
          fun _ => trivial, hInv.parked, fun hEnded => by cases hEnded⟩
      · exact hInv
    · exact hInv
  | writeFails =>
    simp only [Scheduler.step, writeFails]
    split
    · exact hTurn _ rfl (fun _ => trivial) (by simp)
    · exact hTurn _ rfl (fun _ => trivial) (by simp)
    · exact hInv
  | leave =>
    simp only [Scheduler.step, leave]
    split
    · exact ⟨⟨hInv.accounted.buckets, hInv.accounted.total⟩, hInv.capacity, hInv.small,
        fun _ => trivial, fun _ hFreed => Bool.noConfusion hFreed, fun _ => rfl⟩
    · exact hInv

/-- In no state that the scheduler reaches are its two tasks stuck on each other. -/
theorem scheduler_progress (config : SchedulerConfig) (labels : List Label)
    (hFrames : ∀ frame, .send frame ∈ labels → frame.payloadLen ≤ maxFramePayload) :
    (run step (spawn config) labels).Progress := by
  have hStep (s : Scheduler) (l : Label) (hMem : l ∈ labels) (hInv : s.ProgressInv) :
      (s.step l).ProgressInv :=
    hInv.step fun frame hSend => hFrames frame (hSend ▸ hMem)
  exact (run_invariant_mem labels hStep _ (progressInv_spawn config)).progress

/-- A byte comes in while the writer waits. -/
theorem progress_of_waiting_writer :
    (run step (spawn {}) ([.drain, .round [], .turn] ++ firstByte)).writer = .waiting ∧
      (run step (spawn {}) ([.drain, .round [], .turn] ++ firstByte)).Progress := by
  have hFrames : ∀ frame, .send frame ∈ [.drain, .round [], .turn] ++ firstByte →
      frame.payloadLen ≤ maxFramePayload := by
    simp [firstByte, arrival, Frame.payloadLen, maxFramePayload]
  exact ⟨by decide, scheduler_progress {} _ hFrames⟩

end Scheduler

end WaitAgent.Relay
