import WaitAgent.Relay.Progress

/-!
# The books of the scheduler

A bucket counts the bytes of its queue, and the scheduler those of all buckets.  The consumer
adds to both in one critical section, the writer takes off a whole round in another; so both
counts are right in every state, and the limits hold, whatever frames are sent.

A frame is put aside only while some bucket holds frames.  It may stay aside for a moment
longer: a round can empty the buckets, and then the permit that it leaves is what the consumer
wakes up on.
-/

namespace WaitAgent.Relay

open Verified Mux

namespace Bucket

/-- A visit takes no more than there is. -/
theorem bytes_visit_le {b : Bucket} (h : b.Counted) (roundBudget : Nat) :
    bytes (b.visit roundBudget).1 ≤ b.queuedBytes := by
  have hSplit := congrArg bytes (visit_append roundBudget b)
  rw [bytes_append] at hSplit
  rw [h]
  omega

theorem affordable_deficit (frames : List Frame) {deficit : Int} (h : 0 ≤ deficit) :
    0 ≤ (affordable frames deficit).2.2 := by
  induction frames generalizing deficit with
  | nil => exact h
  | cons frame rest ih =>
    simp only [affordable]
    split_ifs with hShort
    · exact h
    · exact ih (by omega)

/-- Credit that was there, and frames that a round pays for. -/
structure Solvent (roundBudget : Nat) (b : Bucket) : Prop where
  deficit : 0 ≤ b.deficit
  small : ∀ frame ∈ b.queue, frame.payloadLen ≤ roundBudget

theorem Solvent.visit {b : Bucket} {roundBudget : Nat} (h : b.Solvent roundBudget) :
    (b.visit roundBudget).2.Solvent roundBudget := by
  have hDeficit := h.deficit
  refine ⟨?_, fun frame hMem => h.small frame ?_⟩
  · unfold Bucket.visit
    split
    · exact hDeficit
    · next frame rest hQueue =>
      have hLeft := affordable_deficit (frame :: rest)
        (show 0 ≤ b.deficit + (roundBudget : Int) by omega)
      have hPays : (affordable (frame :: rest) (b.deficit + roundBudget)).1 ≠ [] := by
        have hFirst : frame.payloadLen ≤ roundBudget :=
          h.small frame (by rw [hQueue]; exact List.mem_cons_self)
        simp only [affordable]
        rw [if_neg (by omega)]
        simp
      dsimp only
      rw [if_neg hPays]
      exact hLeft
  · rw [← visit_append roundBudget b]
    exact List.mem_append_right _ hMem

end Bucket

namespace Scheduler

variable {s : Scheduler}

/-! ## Limits -/

structure Bounded (s : Scheduler) : Prop where
  accounted : s.Accounted
  bucket : ∀ i, (Bucket.ofStream s.buckets i).queuedBytes ≤ s.limits.bucketCapacity
  link : s.totalBucketBytes ≤ s.limits.linkBudget

theorem bounded_spawn (config : SchedulerConfig) : (spawn config).Bounded :=
  ⟨⟨fun _ => rfl, rfl⟩, fun _ => Nat.zero_le _, Nat.zero_le _⟩

/-- Only the buckets and their sum count. -/
theorem Bounded.of_same (h : s.Bounded) {s' : Scheduler} (hBuckets : s'.buckets = s.buckets)
    (hTotal : s'.totalBucketBytes = s.totalBucketBytes) (hLimits : s'.limits = s.limits) :
    s'.Bounded := by
  refine ⟨⟨?_, ?_⟩, ?_, ?_⟩
  · rw [hBuckets]
    exact h.accounted.buckets
  · rw [hBuckets, hTotal]
    exact h.accounted.total
  · rw [hBuckets, hLimits]
    exact h.bucket
  · rw [hTotal, hLimits]
    exact h.link

theorem Bounded.enqueueBucket (h : s.Bounded) (frame : Frame) :
    (s.enqueueBucket frame).Bounded := by
  refine ⟨h.accounted.enqueueBucket frame, fun i => ?_, ?_⟩
  · have hOld := h.bucket i
    simp only [Scheduler.enqueueBucket]
    split_ifs with hDone hFits
    · exact hOld
    · simp only [ofStream_insert]
      split_ifs
      · exact hFits.1
      · exact hOld
    · simp only [ofStream_insert]
      split_ifs
      · exact h.bucket frame.streamId
      · exact hOld
  · simp only [Scheduler.enqueueBucket]
    split_ifs with hDone hFits
    · exact h.link
    · exact hFits.2
    · exact h.link

/-- What is left of a bucket after a round is what its visit leaves. -/
theorem queuedBytes_visited (h : s.Accounted) (i : Nat) :
    (Bucket.ofStream s.visited i).queuedBytes ≤ (Bucket.ofStream s.buckets i).queuedBytes := by
  have hSplit := congrArg Bucket.bytes
    (Bucket.visit_append s.limits.roundBudget (Bucket.ofStream s.buckets i))
  rw [h.visited i, h.buckets i, ofStream_visited, ← hSplit, Bucket.bytes_append]
  omega

theorem Bounded.round (h : s.Bounded) (order : List Nat) : (s.round order).Bounded := by
  have hAccounted := h.accounted.round order
  unfold Scheduler.round at hAccounted ⊢
  split at hAccounted
  · dsimp only at hAccounted ⊢
    split_ifs at hAccounted ⊢
    · exact ⟨hAccounted, fun i => (queuedBytes_visited h.accounted i).trans (h.bucket i),
        (Nat.sub_le _ _).trans h.link⟩
    · exact h
  · exact h

/-- The buckets are left alone. -/
structure KeepsBuckets (s s' : Scheduler) : Prop where
  buckets_eq : s'.buckets = s.buckets
  totalBucketBytes_eq : s'.totalBucketBytes = s.totalBucketBytes
  limits_eq : s'.limits = s.limits

/-- Only a poll of the consumer and a round of the writer touch the buckets. -/
theorem step_keepsBuckets (s : Scheduler) (l : Label) :
    KeepsBuckets s (s.step l) ∨ l = .consume ∨ ∃ order, l = .round order := by
  cases l with
  | consume => exact .inr (.inl rfl)
  | round order => exact .inr (.inr ⟨order, rfl⟩)
  | send frame =>
    left
    simp only [step, send]
    split_ifs <;> exact ⟨rfl, rfl, rfl⟩
  | dropIngress => exact .inl ⟨rfl, rfl, rfl⟩
  | drain | emit | turn | wake | writeFails | leave =>
    left
    simp only [step, drain, emit, turn, wake, writeFails, leave]
    split <;> (try split_ifs) <;> exact ⟨rfl, rfl, rfl⟩

/-- What a poll can do to the buckets: offer them one frame. -/
theorem consume_keepsBuckets (s : Scheduler) :
    KeepsBuckets s s.consume ∨
      ∃ t frame, KeepsBuckets s t ∧ KeepsBuckets (t.enqueueBucket frame) s.consume := by
  obtain hSame | ⟨frame, rest, hControl, hEq⟩ | ⟨frame, hParked, hEq⟩ |
    ⟨frame, rest, hFree, hBulk, hEq⟩ := s.consume_cases
  · exact .inl ⟨hSame.buckets_eq, hSame.totalBucketBytes_eq, hSame.limits_eq⟩
  · rw [hEq]
    exact .inl ⟨rfl, rfl, rfl⟩
  · rw [hEq]
    exact .inr ⟨s.takePermit, frame, ⟨rfl, rfl, rfl⟩, ⟨rfl, rfl, rfl⟩⟩
  · rw [hEq]
    split_ifs
    · exact .inr ⟨s.popBulk rest, frame, ⟨rfl, rfl, rfl⟩, ⟨rfl, rfl, rfl⟩⟩
    · exact .inl ⟨rfl, rfl, rfl⟩

theorem Bounded.keep (h : s.Bounded) {s' : Scheduler} (hKeeps : KeepsBuckets s s') : s'.Bounded :=
  h.of_same hKeeps.buckets_eq hKeeps.totalBucketBytes_eq hKeeps.limits_eq

theorem Bounded.step (h : s.Bounded) (l : Label) : (s.step l).Bounded := by
  rcases s.step_keepsBuckets l with hKeeps | rfl | ⟨order, rfl⟩
  · exact h.keep hKeeps
  · rcases s.consume_keepsBuckets with hKeeps | ⟨t, frame, hBefore, hAfter⟩
    · exact h.keep hKeeps
    · exact ((h.keep hBefore).enqueueBucket frame).keep hAfter
  · exact h.round order

/-! ## Credit -/

/-- No bucket is in debt, and none will be. -/
structure InCredit (s : Scheduler) : Prop where
  buckets : ∀ i, (Bucket.ofStream s.buckets i).Solvent s.limits.roundBudget
  waiting : ∀ frame ∈ s.parked.toList ++ s.bulk, frame.payloadLen ≤ s.limits.roundBudget

theorem inCredit_spawn (config : SchedulerConfig) : (spawn config).InCredit :=
  ⟨fun _ => ⟨Int.le_refl 0, nofun⟩, nofun⟩

/-- The frame that is offered joins its bucket, is put aside, or is dropped. -/
theorem InCredit.enqueueBucket
    (hBuckets : ∀ i, (Bucket.ofStream s.buckets i).Solvent s.limits.roundBudget) {frame : Frame}
    (hWaiting : ∀ f ∈ frame :: s.bulk, f.payloadLen ≤ s.limits.roundBudget) :
    (s.enqueueBucket frame).InCredit := by
  have hFrame := hWaiting frame List.mem_cons_self
  have hBulk : ∀ f ∈ s.bulk, f.payloadLen ≤ s.limits.roundBudget :=
    fun f hMem => hWaiting f (List.mem_cons_of_mem _ hMem)
  simp only [Scheduler.enqueueBucket]
  split_ifs
  · exact ⟨hBuckets, hBulk⟩
  · refine ⟨fun i => ?_, hBulk⟩
    simp only [ofStream_insert]
    split_ifs
    · refine ⟨(hBuckets frame.streamId).deficit, fun f hMem => ?_⟩
      rcases List.mem_append.mp hMem with hOld | hNew
      · exact (hBuckets frame.streamId).small f hOld
      · rwa [List.mem_singleton.mp hNew]
    · exact hBuckets i
  · refine ⟨fun i => ?_, hWaiting⟩
    simp only [ofStream_insert]
    split_ifs
    · exact hBuckets frame.streamId
    · exact hBuckets i

theorem InCredit.consume (h : s.InCredit) : s.consume.InCredit := by
  have hLimits := s.consume_output.limits_eq
  obtain hSame | ⟨frame, rest, hControl, hEq⟩ | ⟨frame, hParked, hEq⟩ |
    ⟨frame, rest, hFree, hBulk, hEq⟩ := s.consume_cases
  · refine ⟨?_, ?_⟩
    · rw [hSame.buckets_eq, hLimits]
      exact h.buckets
    · rw [hSame.parked_eq, hSame.bulk_eq, hLimits]
      exact h.waiting
  · rw [hEq]
    exact ⟨h.buckets, h.waiting⟩
  · rw [hEq]
    refine InCredit.enqueueBucket (s := s.takePermit) h.buckets ?_
    have hWaiting := h.waiting
    rwa [hParked] at hWaiting
  · have hOffer : ∀ f ∈ frame :: rest, f.payloadLen ≤ s.limits.roundBudget := by
      have hWaiting := h.waiting
      rwa [hFree, hBulk] at hWaiting
    rw [hEq]
    split_ifs
    · have hQueued := InCredit.enqueueBucket (s := s.popBulk rest) h.buckets hOffer
      exact ⟨hQueued.buckets, hQueued.waiting⟩
    · refine ⟨h.buckets, fun f hMem => ?_⟩
      simp only [atArm, classify, popBulk, hFree] at hMem
      exact hOffer f (List.mem_cons_of_mem _ hMem)

theorem InCredit.visited (h : s.InCredit) (i : Nat) :
    (Bucket.ofStream s.visited i).Solvent s.limits.roundBudget := by
  have hEmpty : Bucket.Solvent s.limits.roundBudget {} := ⟨Int.le_refl 0, nofun⟩
  have hVisit := (h.buckets i).visit
  simp only [Scheduler.visited, Bucket.ofStream, AList.lookup_retain, AList.lookup_mapValues]
  rw [Bucket.ofStream] at hVisit
  cases hBucket : s.buckets.lookup i with
  | none => exact hEmpty
  | some b =>
    rw [hBucket] at hVisit
    simp only [Option.map_some, Option.filter_some]
    split_ifs
    · exact hVisit
    · exact hEmpty

theorem InCredit.step (h : s.InCredit) {l : Label}
    (hFrame : ∀ frame, l = .send frame → frame.payloadLen ≤ s.limits.roundBudget) :
    (s.step l).InCredit := by
  cases l with
  | consume => exact h.consume
  | round order =>
    simp only [Scheduler.step, Scheduler.round]
    split
    · split_ifs
      · exact ⟨h.visited, h.waiting⟩
      · exact h
    · exact h
  | send frame =>
    simp only [Scheduler.step, Scheduler.send]
    split_ifs
    · exact h
    · refine ⟨h.buckets, fun f hMem => ?_⟩
      rw [← List.append_assoc, List.mem_append, List.mem_singleton] at hMem
      rcases hMem with hOld | rfl
      · exact h.waiting f hOld
      · exact hFrame f rfl
    · exact ⟨h.buckets, h.waiting⟩
    · exact h
  | dropIngress => exact ⟨h.buckets, h.waiting⟩
  | drain | emit | turn | wake | writeFails | leave =>
    simp only [Scheduler.step, drain, emit, turn, wake, writeFails, leave]
    split <;> (try split_ifs) <;> first | exact h | exact ⟨h.buckets, h.waiting⟩

/-! ## The books -/

structure Balanced (s : Scheduler) : Prop where
  counted : ∀ i b, s.buckets.lookup i = some b → b.queuedBytes = Bucket.bytes b.queue
  total : s.totalBucketBytes = s.buckets.sumValues Bucket.queuedBytes
  bucket : ∀ i b, s.buckets.lookup i = some b → b.queuedBytes ≤ s.limits.bucketCapacity
  link : s.totalBucketBytes ≤ s.limits.linkBudget
  /-- A visit takes no more off the count of a bucket than there is, -/
  visits : ∀ i b, s.buckets.lookup i = some b →
    Bucket.bytes (b.visit s.limits.roundBudget).1 ≤ b.queuedBytes
  /-- and a round no more off the sum. -/
  rounds : ∀ order : List Nat, order.Perm s.buckets.keys →
    Bucket.bytes (s.batch order) ≤ s.totalBucketBytes
  /-- A bucket that a round drops was empty before it. -/
  reaped : ∀ order i b, s.buckets.lookup i = some b →
    (s.round order).buckets.lookup i = none → b.queue = []

/-- When frames are put aside, and what they wait for. -/
structure Parking (s : Scheduler) : Prop where
  parks : ∀ l, s.parked = none → (s.step l).parked.isSome = true → (s.step l).Backlog
  waits : s.parked.isSome = true → s.Backlog ∨ s.spaceFreed = true
  /-- With a budget that pays for any frame, no count of credit goes below zero either. -/
  credit : maxFramePayload ≤ s.limits.roundBudget →
    ∀ i b, s.buckets.lookup i = some b → 0 ≤ b.deficit

theorem reaped_of_round {order : List Nat} {i : Nat} {b : Bucket}
    (hBucket : s.buckets.lookup i = some b) (hGone : (s.round order).buckets.lookup i = none) :
    b.queue = [] := by
  have hKept (h : s.buckets.lookup i = none) : b.queue = [] := by
    rw [hBucket] at h
    cases h
  unfold Scheduler.round at hGone
  split at hGone
  · split_ifs at hGone
    · simp only [visited, AList.lookup_retain, AList.lookup_mapValues, hBucket, Option.map_some,
        Option.filter_some] at hGone
      split_ifs at hGone with hReaped
      -- a visit to a bucket with a queue resets its count of idle rounds
      by_contra hQueue
      obtain ⟨frame, rest, hFirst⟩ := List.exists_cons_of_ne_nil hQueue
      have hFresh : (b.visit s.limits.roundBudget).2.idlePasses = 0 := by
        simp only [Bucket.visit, hFirst]
        split_ifs <;> rfl
      simp [Bucket.reaped, hFresh, idleReapPasses] at hReaped
    · exact hKept hGone
  · exact hKept hGone

theorem Bounded.balanced (h : s.Bounded) : s.Balanced := by
  have hOf (i : Nat) (b : Bucket) (hBucket : s.buckets.lookup i = some b) :
      Bucket.ofStream s.buckets i = b := by
    rw [Bucket.ofStream, hBucket]
    rfl
  have hCounted (i : Nat) (b : Bucket) (hBucket : s.buckets.lookup i = some b) : b.Counted :=
    hOf i b hBucket ▸ h.accounted.buckets i
  refine ⟨hCounted, ?_, fun i b hBucket => hOf i b hBucket ▸ h.bucket i, h.link,
    fun i b hBucket => Bucket.bytes_visit_le (hCounted i b hBucket) _, fun order hOrder => ?_,
    fun order i b => reaped_of_round⟩
  · rw [h.accounted.total, AList.sumValues, AList.sumValues]
    refine congrArg List.sum (List.map_congr_left fun b hMem => ?_)
    obtain ⟨i, hBucket⟩ := AList.mem_values_iff.mp hMem
    exact (hCounted i b hBucket).symm
  · rw [bytes_batch hOrder, h.accounted.total, AList.sumValues,
      bytes_visits s.limits.roundBudget s.buckets.values]
    omega

theorem step_parked {l : Label} (hPoll : l ≠ .consume) : (s.step l).parked = s.parked := by
  cases l with
  | consume => exact absurd rfl hPoll
  | send frame =>
    simp only [step, send]
    split_ifs <;> rfl
  | dropIngress => rfl
  | drain | round | emit | turn | wake | writeFails | leave =>
    simp only [step, drain, round, emit, turn, wake, writeFails, leave]
    split <;> (try split_ifs) <;> rfl

/-- Only a poll puts a frame aside, the first of the queue. -/
theorem ProgressInv.parks (hInv : s.ProgressInv) {l : Label} (hFree : s.parked = none)
    (hParked : (s.step l).parked.isSome = true) : (s.step l).Backlog := by
  by_cases hPoll : l = .consume
  · subst hPoll
    change s.consume.parked.isSome = true at hParked
    change s.consume.Backlog
    obtain hSame | ⟨frame, rest, hControl, hEq⟩ | ⟨frame, hOld, hEq⟩ |
      ⟨frame, rest, -, hBulk, hEq⟩ := s.consume_cases
    · rw [hSame.parked_eq, hFree] at hParked
      cases hParked
    · rw [hEq] at hParked
      simp only [atArm, classify, popControl, hFree] at hParked
      cases hParked
    · rw [hFree] at hOld
      cases hOld
    · have hAccounted : (s.popBulk rest).Accounted :=
        ⟨hInv.accounted.buckets, hInv.accounted.total⟩
      have hSmall : frame.payloadLen ≤ maxFramePayload :=
        hInv.small frame (by rw [hBulk]; simp)
      rw [hEq] at hParked ⊢
      split_ifs at hParked ⊢
      · exact (backlog_of_parked hAccounted hInv.capacity hSmall hParked).1
      · simp only [atArm, classify, popBulk, hFree] at hParked
        cases hParked
  · rw [step_parked hPoll, hFree] at hParked
    cases hParked

theorem inCredit_run (config : SchedulerConfig) (labels : List Label)
    (hFrames : ∀ frame, .send frame ∈ labels → frame.payloadLen ≤ config.limits.roundBudget) :
    (run step (spawn config) labels).InCredit := by
  have hStep (s : Scheduler) (l : Label) (hMem : l ∈ labels)
      (h : s.limits = config.limits ∧ s.InCredit) :
      (s.step l).limits = config.limits ∧ (s.step l).InCredit := by
    refine ⟨(s.step_ingress l).1.trans h.1, h.2.step fun frame hSend => ?_⟩
    rw [h.1]
    exact hFrames frame (hSend ▸ hMem)
  exact (run_invariant_mem labels hStep _ ⟨rfl, inCredit_spawn config⟩).2

/-- In every state that the scheduler reaches the books are balanced, whatever is sent; and
frames that fit into a link wait only for a round, or with the permit that one has left. -/
theorem scheduler_accounts (config : SchedulerConfig) (labels : List Label) :
    (run step (spawn config) labels).limits = config.limits ∧
      (run step (spawn config) labels).Balanced ∧
      ((∀ frame, .send frame ∈ labels → frame.payloadLen ≤ maxFramePayload) →
        (run step (spawn config) labels).Parking) := by
  refine ⟨limits_run labels _, ?_, fun hFrames => ?_⟩
  · exact (run_invariant (I := Bounded) (fun s l h => h.step l) labels _
      (bounded_spawn config)).balanced
  · have hStep (s : Scheduler) (l : Label) (hMem : l ∈ labels) (hInv : s.ProgressInv) :
        (s.step l).ProgressInv :=
      hInv.step fun frame hSend => hFrames frame (hSend ▸ hMem)
    have hInv := run_invariant_mem labels hStep _ (progressInv_spawn config)
    refine ⟨fun l hFree hParked => hInv.parks hFree hParked, fun hParked => ?_,
      fun hBudget i b hBucket => ?_⟩
    · by_cases hSpace : (run step (spawn config) labels).spaceFreed = true
      · exact .inr hSpace
      · exact .inl (hInv.parked hParked (by simpa using hSpace)).1
    · rw [limits_run] at hBudget
      have hCredit := (inCredit_run config labels fun frame hSend =>
        (hFrames frame hSend).trans hBudget).buckets i
      rw [Bucket.ofStream, hBucket] at hCredit
      exact hCredit.deficit

/-! ### A frame without backlog -/

/-- The bucket is full, a byte is put aside, and then a round takes everything. -/
def emptied : List Label :=
  [.send fullFrame, .consume, .consume, .consume, .send (.data 2 [7]), .consume, .consume,
    .consume, .drain, .round [2]]

/-- No bucket holds a frame, but one is parked still. -/
theorem parked_without_backlog :
    (run step (spawn { bucketCapacityBytes := 0 }) emptied).parked = some (.data 2 [7]) ∧
      ¬ (run step (spawn { bucketCapacityBytes := 0 }) emptied).Backlog := by
  have hNone : ((run step (spawn { bucketCapacityBytes := 0 }) emptied).buckets.values.any
      fun b => !b.queue.isEmpty) = false := by decide +kernel
  refine ⟨by decide +kernel, fun ⟨i, hQueue⟩ => hQueue ?_⟩
  exact (any_values_eq_false_iff _).mp hNone i

end Scheduler

end WaitAgent.Relay
