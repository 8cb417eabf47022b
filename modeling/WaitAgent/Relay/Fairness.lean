import WaitAgent.Relay.Delivery

/-!
# Fairness of a round

A round pays for the frames of a bucket out of its deficit.  What is not spent stays with the
bucket, also when the bucket runs empty, and is topped up at the next visit: streams that
send little at a time save credit without a bound, and may spend all of it in one round.
What a bucket brings into a round is told by its history: the budgets of the rounds that
have found backlog in it, less the bytes that they took.
-/

namespace WaitAgent.Relay

open Verified Mux

/-! ## One visit -/

namespace Bucket

@[simp] theorem bytes_nil : bytes [] = 0 := rfl

@[simp] theorem bytes_cons (frame : Frame) (frames : List Frame) :
    bytes (frame :: frames) = frame.payloadLen + bytes frames := by
  simp [bytes]

/-- What the frames cost is taken off the deficit, which pays for all of them. -/
theorem affordable_bytes (frames : List Frame) (deficit : Int) :
    (affordable frames deficit).2.2 = deficit - bytes (affordable frames deficit).1 ∧
      ((affordable frames deficit).1 ≠ [] →
        (bytes (affordable frames deficit).1 : Int) ≤ deficit) := by
  induction frames generalizing deficit with
  | nil => simp [affordable]
  | cons frame rest ih =>
    unfold affordable
    split_ifs with hDear
    · simp
    · obtain ⟨hLeft, hPaid⟩ := ih (deficit - frame.payloadLen)
      dsimp only
      rw [bytes_cons, hLeft]
      refine ⟨by omega, fun _ => ?_⟩
      by_cases hNone : (affordable rest (deficit - frame.payloadLen)).1 = []
      · rw [hNone, bytes_nil]
        omega
      · have hRest := hPaid hNone
        omega

theorem bytes_le_of_prefix {frames more : List Frame} (h : frames <+: more) :
    bytes frames ≤ bytes more := by
  obtain ⟨rest, rfl⟩ := h
  simp [bytes]

/-- Nothing that the deficit pays for is left behind. -/
theorem prefix_affordable {frames front : List Frame} {deficit : Int} (hFront : front <+: frames)
    (hPaid : (bytes front : Int) ≤ deficit) : front <+: (affordable frames deficit).1 := by
  induction frames generalizing front deficit with
  | nil => exact hFront
  | cons frame rest ih =>
    cases front with
    | nil => exact List.nil_prefix
    | cons first front =>
      obtain ⟨rfl, hRest⟩ := List.cons_prefix_cons.mp hFront
      rw [bytes_cons] at hPaid
      rw [affordable, if_neg (by omega)]
      exact List.cons_prefix_cons.mpr ⟨rfl, ih hRest (by omega)⟩

/-- A visit adds the budget to the deficit of a bucket with backlog, and takes off what
leaves. -/
theorem visit_deficit (b : Bucket) (roundBudget : Nat) :
    (b.visit roundBudget).2.deficit =
      if b.queue = [] then b.deficit
      else b.deficit + roundBudget - bytes (b.visit roundBudget).1 := by
  unfold visit
  split
  · next hEmpty => rw [if_pos hEmpty]
  · next frame rest hQueue =>
    obtain ⟨hLeft, -⟩ := affordable_bytes (frame :: rest) (b.deficit + roundBudget)
    rw [if_neg (by simp [hQueue])]
    dsimp only
    split_ifs with hNone
    · simp only [hLeft, hNone, bytes_cons, bytes_nil]
      omega
    · exact hLeft

/-- A visit stays within the budget and a frame exactly if no beginning of the queue that
the deficit pays for is longer. -/
theorem visit_bytes_le_iff {b : Bucket} {roundBudget most : Nat}
    (hSmall : ∀ frame ∈ b.queue, frame.payloadLen ≤ most) :
    bytes (b.visit roundBudget).1 ≤ roundBudget + most ↔
      ∀ front, front <+: b.queue → (bytes front : Int) ≤ b.deficit + roundBudget →
        bytes front ≤ roundBudget + most := by
  unfold visit
  split
  · next hEmpty =>
    refine iff_of_true (by simp) fun front hFront _ => ?_
    rw [hEmpty, List.prefix_nil] at hFront
    simp [hFront]
  · next frame rest hQueue =>
    obtain ⟨-, hPaid⟩ := affordable_bytes (frame :: rest) (b.deficit + roundBudget)
    have hLongest (front : List Frame) (hFront : front <+: b.queue)
        (h : (bytes front : Int) ≤ b.deficit + roundBudget) :=
      bytes_le_of_prefix (prefix_affordable (hQueue ▸ hFront) h)
    dsimp only
    split_ifs with hNone
    · have hFrame := hSmall frame (by rw [hQueue]; exact List.mem_cons_self)
      refine iff_of_true (by simp only [bytes_cons, bytes_nil]; omega) fun front hFront h => ?_
      have hNothing := hLongest front hFront h
      rw [hNone, bytes_nil] at hNothing
      omega
    · refine ⟨fun hTaken front hFront h => (hLongest front hFront h).trans hTaken, fun hAll => ?_⟩
      have hSplit := affordable_append (frame :: rest) (b.deficit + roundBudget)
      exact hAll _ ⟨_, hSplit.trans hQueue.symm⟩ (hPaid hNone)

/-- A bucket with backlog sends something. -/
theorem visit_ne_nil {b : Bucket} (roundBudget : Nat) (hQueue : b.queue ≠ []) :
    (b.visit roundBudget).1 ≠ [] := by
  unfold visit
  split
  · next hEmpty => exact absurd hEmpty hQueue
  · dsimp only
    split_ifs with hNone
    · simp
    · exact hNone

end Bucket

/-! ## Rounds -/

namespace Scheduler

variable {s : Scheduler}

/-- What a round takes from the bucket of a stream. -/
def takenFrom (s : Scheduler) (order : List Nat) (i : Nat) : List Frame :=
  (s.batch order).filter fun frame => frame.streamId = i

/-! ### What a stream has saved -/

/-- The books on the bucket of a stream, by one who watches the rounds. -/
structure Account where
  /-- The budgets of the rounds that found backlog. -/
  granted : Nat := 0
  /-- The bytes that those rounds took. -/
  sent : Nat := 0
  deriving DecidableEq

/-- A round over the backlog of stream `i` is booked, and a round that drops its bucket closes
the account. -/
def booked (s : Scheduler) (i : Nat) (account : Account) : Label → Account
  | .round order =>
      match s.writer with
      | .control [] _ =>
          if order.Perm s.buckets.keys then
            if s.visited.lookup i = none then {}
            else if (Bucket.ofStream s.buckets i).queue = [] then account
            else
              { granted := account.granted + s.limits.roundBudget
                sent := account.sent + Bucket.bytes (s.takenFrom order i) }
          else account
      | _ => account
  | _ => account

/-- A step, with the account of stream `i`. -/
def audit (i : Nat) (p : Scheduler × Account) (l : Label) : Scheduler × Account :=
  (p.1.step l, p.1.booked i p.2 l)

/-- What the rounds of a run have granted to stream `i` and taken from it. -/
def account (config : SchedulerConfig) (labels : List Label) (i : Nat) : Account :=
  (run (audit i) (spawn config, {}) labels).2

theorem run_audit_fst (i : Nat) (labels : List Label) (p : Scheduler × Account) :
    (run (audit i) p labels).1 = run step p.1 labels := by
  induction labels generalizing p with
  | nil => rfl
  | cons l labels ih => exact ih _

theorem deficit_enqueueBucket (s : Scheduler) (frame : Frame) (i : Nat) :
    (Bucket.ofStream (s.enqueueBucket frame).buckets i).deficit =
      (Bucket.ofStream s.buckets i).deficit := by
  unfold enqueueBucket
  dsimp only
  split_ifs
  · rfl
  all_goals
    rw [ofStream_insert]
    split_ifs with hi
    · rw [hi]
    · rfl

theorem deficit_consume (s : Scheduler) (i : Nat) :
    (Bucket.ofStream s.consume.buckets i).deficit = (Bucket.ofStream s.buckets i).deficit := by
  obtain hSame | ⟨frame, rest, -, hEq⟩ | ⟨frame, -, hEq⟩ | ⟨frame, rest, -, -, hEq⟩ :=
    s.consume_cases
  · rw [hSame.buckets_eq]
  · rw [hEq]
    rfl
  · rw [hEq]
    exact deficit_enqueueBucket s.takePermit frame i
  · rw [hEq]
    split_ifs
    · exact deficit_enqueueBucket (s.popBulk rest) frame i
    · rfl

theorem deficit_visited (s : Scheduler) (i : Nat) :
    (Bucket.ofStream s.visited i).deficit =
      if s.visited.lookup i = none then 0
      else ((Bucket.ofStream s.buckets i).visit s.limits.roundBudget).2.deficit := by
  split_ifs with hGone
  · rw [Bucket.ofStream, hGone]
    rfl
  · obtain ⟨bucket, hBucket⟩ := Option.ne_none_iff_exists'.mp hGone
    rw [Bucket.ofStream, hBucket]
    rw [visited, AList.lookup_retain, AList.lookup_mapValues, Option.filter_eq_some_iff,
      Option.map_eq_some_iff] at hBucket
    obtain ⟨⟨old, hOld, rfl⟩, -⟩ := hBucket
    rw [Bucket.ofStream, hOld]
    rfl

/-- The deficit of a bucket is what its stream was granted and has not sent. -/
def Reconciled (i : Nat) (p : Scheduler × Account) : Prop :=
  (Bucket.ofStream p.1.buckets i).deficit = p.2.granted - p.2.sent

theorem Reconciled.round {i : Nat} {account : Account} (hWf : s.Wf) (order : List Nat)
    (h : Reconciled i (s, account)) : Reconciled i (audit i (s, account) (.round order)) := by
  by_cases hRound : ∃ quiet, s.writer = .control [] quiet
  · obtain ⟨quiet, hWriter⟩ := hRound
    simp only [Reconciled, audit, step, booked, Scheduler.round, hWriter] at h ⊢
    split_ifs with hOrder hGone hEmpty
    · simp [deficit_visited, hGone]
    · rw [deficit_visited, if_neg hGone, Bucket.visit_deficit, if_pos hEmpty, h]
    · rw [deficit_visited, if_neg hGone, Bucket.visit_deficit, if_neg hEmpty, h, takenFrom,
        filter_batch hWf hOrder]
      push_cast
      omega
    · exact h
  · have hSame : s.round order = s := by
      unfold Scheduler.round
      split
      · next quiet hWriter => exact absurd ⟨quiet, hWriter⟩ hRound
      · rfl
    have hBooked : s.booked i account (.round order) = account := by
      simp only [booked]
      split
      · next quiet hWriter => exact absurd ⟨quiet, hWriter⟩ hRound
      · rfl
    rw [Reconciled, audit, hBooked, step, hSame]
    exact h

theorem Reconciled.step {i : Nat} {p : Scheduler × Account} (hWf : p.1.Wf) (h : Reconciled i p)
    (l : Label) : Reconciled i (audit i p l) := by
  obtain ⟨s, account⟩ := p
  have hKept (hBuckets : (s.step l).buckets = s.buckets)
      (hBooked : s.booked i account l = account) : Reconciled i (audit i (s, account) l) := by
    rw [Reconciled, audit, hBuckets, hBooked]
    exact h
  cases l with
  | send frame =>
    refine hKept ?_ rfl
    simp only [Scheduler.step, send]
    split_ifs <;> rfl
  | dropIngress => exact hKept rfl rfl
  | consume => exact (deficit_consume s i).trans h
  | round order => exact h.round hWf order
  | drain | emit | turn | wake | writeFails | leave =>
    refine hKept ?_ rfl
    simp only [Scheduler.step, drain, emit, turn, wake, writeFails, leave]
    repeat' split
    all_goals rfl

theorem reconciled_run (config : SchedulerConfig) (labels : List Label) (i : Nat) :
    (Bucket.ofStream (run step (spawn config) labels).buckets i).deficit =
      (account config labels i).granted - (account config labels i).sent := by
  have hRun := run_invariant (I := fun p : Scheduler × Account => p.1.Wf ∧ Reconciled i p)
    (fun p l hp => ⟨hp.1.step l, hp.2.step hp.1 l⟩) labels (spawn config, {})
    ⟨wf_spawn config, rfl⟩
  have hDeficit := hRun.2
  rwa [Reconciled, run_audit_fst] at hDeficit

/-! ### The bound -/

theorem limits_run (labels : List Label) (s : Scheduler) :
    (run step s labels).limits = s.limits := by
  induction labels generalizing s with
  | nil => rfl
  | cons l labels ih => rw [run_cons, ih, (s.step_ingress l).1]

/-- All that the ingress has taken was sent. -/
theorem accepted_run {P : Frame → Prop} {labels : List Label}
    (hSent : ∀ frame, .send frame ∈ labels → P frame) (config : SchedulerConfig) :
    ∀ frame ∈ (run step (spawn config) labels).accepted, P frame := by
  have hStart : ∀ frame ∈ (spawn config).accepted, P frame := nofun
  refine run_invariant_mem (I := fun s : Scheduler => ∀ frame ∈ s.accepted, P frame) labels ?_ _
    hStart
  intro s l hMem hAll frame hFrame
  rcases (s.step_ingress l).2 with hSame | ⟨new, rfl, hNew⟩
  · exact hAll frame (hSame ▸ hFrame)
  · rw [hNew, List.mem_append, List.mem_singleton] at hFrame
    rcases hFrame with hOld | rfl
    · exact hAll frame hOld
    · exact hSent frame hMem

/-- What is in a bucket has been accepted, as long as the writer runs. -/
theorem DeliveryInv.mem_accepted (hInv : s.DeliveryInv) (hRuns : s.halted = false) {i : Nat}
    {frame : Frame} (hMem : frame ∈ s.lanes.bulk i) : frame ∈ s.accepted := by
  have hAccepted : frame ∈ bulkFrames i s.accepted := by
    rw [show s.accepted = s.lanes.accepted from rfl, (hInv.running hRuns).bulk i]
    exact List.mem_append_right _ hMem
  exact List.mem_of_mem_filter hAccepted

theorem deliveryInv_run (config : SchedulerConfig) (labels : List Label) :
    (run step (spawn config) labels).DeliveryInv :=
  run_invariant (I := DeliveryInv) (fun _ l hInv => hInv.step l) labels _
    (deliveryInv_spawn config)

/-- A round takes from every bucket with backlog.  It takes no more than the budget of a
round and a frame exactly if no longer beginning of the backlog is paid for by this budget and
what the stream was granted before and has not sent: so always if that is at most a frame. -/
theorem fair_round_iff (config : SchedulerConfig) (labels : List Label)
    (hFrames : ∀ frame, .send frame ∈ labels → frame.payloadLen ≤ maxFramePayload)
    {order : List Nat} {quiet : Bool}
    (hWriter : (run step (spawn config) labels).writer = .control [] quiet)
    (hOrder : order.Perm (run step (spawn config) labels).buckets.keys) (i : Nat) :
    ((Bucket.ofStream (run step (spawn config) labels).buckets i).queue ≠ [] →
      (run step (spawn config) labels).takenFrom order i ≠ []) ∧
    (Bucket.bytes ((run step (spawn config) labels).takenFrom order i) ≤
        config.limits.roundBudget + maxFramePayload ↔
      ∀ front, front <+: (Bucket.ofStream (run step (spawn config) labels).buckets i).queue →
        Bucket.bytes front + (account config labels i).sent ≤
          (account config labels i).granted + config.limits.roundBudget →
        Bucket.bytes front ≤ config.limits.roundBudget + maxFramePayload) ∧
    ((account config labels i).granted ≤ (account config labels i).sent + maxFramePayload →
      Bucket.bytes ((run step (spawn config) labels).takenFrom order i) ≤
        config.limits.roundBudget + maxFramePayload) := by
  have hInv := deliveryInv_run config labels
  have hAccepted := accepted_run hFrames config
  have hLimits : (run step (spawn config) labels).limits = config.limits :=
    limits_run labels (spawn config)
  have hDeficit := reconciled_run config labels i
  have hRuns : (run step (spawn config) labels).halted = false := by simp [halted, hWriter]
  set s := run step (spawn config) labels
  have hSmall : ∀ frame ∈ (Bucket.ofStream s.buckets i).queue,
      frame.payloadLen ≤ maxFramePayload := by
    intro frame hMem
    exact hAccepted frame (hInv.mem_accepted (i := i) hRuns (List.mem_append_left _ hMem))
  rw [takenFrom, filter_batch hInv.wf hOrder, hLimits, Bucket.visit_bytes_le_iff hSmall, hDeficit]
  refine ⟨Bucket.visit_ne_nil _, ?_, fun hSaved front _ hPaid => by omega⟩
  refine forall_congr' fun front => imp_congr_right fun _ => imp_congr_left ?_
  omega

/-- A frame comes in and is classified. -/
def arrival (frame : Frame) : List Label :=
  [.send frame, .consume, .consume, .consume]

/-- Two streams share a link with small rounds.  One sends a frame that takes three rounds to
pay for and more behind it, the other single bytes; two rounds have passed. -/
def sharedLink : List Label :=
  arrival (.data 2 [1, 2, 3, 4, 5]) ++ arrival (.data 4 [7]) ++ arrival (.data 2 [6]) ++
    arrival (.data 2 [8]) ++ [.drain, .round [4, 2], .emit, .emit, .turn, .drain, .round [4, 2],
      .emit, .turn] ++ arrival (.data 4 [7]) ++ [.drain]

/-- The long frame has left its stream in debt, so that the third round takes a single frame
of it, and the byte of the other. -/
theorem fair_to_shared_link :
    account { roundBudgetBytes := 2 } sharedLink 2 = { granted := 4, sent := 6 } ∧
      (run step (spawn { roundBudgetBytes := 2 }) sharedLink).takenFrom [4, 2] 2 ≠ [] ∧
      (run step (spawn { roundBudgetBytes := 2 }) sharedLink).takenFrom [4, 2] 4 ≠ [] ∧
      Bucket.bytes ((run step (spawn { roundBudgetBytes := 2 }) sharedLink).takenFrom [4, 2] 2) ≤
        2 + maxFramePayload := by
  have hFrames : ∀ frame, .send frame ∈ sharedLink → frame.payloadLen ≤ maxFramePayload := by
    simp [sharedLink, arrival, Frame.payloadLen, maxFramePayload]
  have hWriter : (run step (spawn { roundBudgetBytes := 2 }) sharedLink).writer
      = .control [] true := by decide +kernel
  have hOrder : [4, 2].Perm (run step (spawn { roundBudgetBytes := 2 }) sharedLink).buckets.keys :=
    by decide +kernel
  have hFair := fair_round_iff { roundBudgetBytes := 2 } sharedLink hFrames hWriter hOrder
  exact ⟨by decide +kernel, (hFair 2).1 (by decide +kernel), (hFair 4).1 (by decide +kernel),
    (hFair 2).2.2 (by decide +kernel)⟩

/-! ## Credit that was saved -/

/-- The largest frame of a stream. -/
def fullFrame : Frame :=
  .data 2 (List.replicate maxFramePayload 0)

theorem payloadLen_fullFrame : fullFrame.payloadLen = 16384 :=
  List.length_replicate

/-- A byte comes in, and the writer gets to its round. -/
def firstByte : List Label :=
  arrival (.data 2 [7]) ++ [.drain]

/-- The stream has sent a byte in a round of its own. -/
def trickle : List Label :=
  firstByte ++ [.round [2], .emit, .turn]

/-- A large frame comes in. -/
def feed : List Label :=
  arrival fullFrame

/-- The credit of a round but for a byte, and `n` large frames. -/
structure Saving (n : Nat) (s : Scheduler) : Prop where
  limits : s.limits = ({} : SchedulerConfig).limits
  bulk : s.bulk = []
  control : s.control = []
  opened : s.ingressDropped = false
  consumer : s.consumer = .spaceArm
  parked : s.parked = none
  bulkClosed : s.bulkClosed = false
  controlClosed : s.controlClosed = false
  priority : s.priority = []
  keys : s.buckets.keys = [2]
  bucket : s.buckets.lookup 2 = some
    { queue := List.replicate n fullFrame, queuedBytes := n * 16384, deficit := 65535 }
  total : s.totalBucketBytes = n * 16384
  writerDone : s.writerDone = false
  writer : s.writer = .top

theorem saving_trickle : Saving 0 (run step (spawn {}) trickle) := by
  constructor <;> decide

/-- The frame that was sent is the one that the consumer puts into the bucket. -/
theorem run_feed {n : Nat} (h : Saving n s) (hn : n < 63) :
    run step s feed =
      { s with
        buckets := s.buckets.insert 2
          { queue := List.replicate (n + 1) fullFrame, queuedBytes := (n + 1) * 16384
            deficit := 65535 }
        totalBucketBytes := (n + 1) * 16384
        workAvailable := true
        accepted := s.accepted ++ [fullFrame] } := by
  rcases s with ⟨limits, bulk, control, ingressDropped, consumer, parked, bulkClosed,
    controlClosed, priority, buckets, total, ingressOpen, writerDone, work, space, writer,
    written, accepted⟩
  obtain ⟨rfl, rfl, rfl, rfl, rfl, rfl, rfl, rfl, rfl, -, hBucket, rfl, rfl, rfl⟩ := h
  have hOrdered : fullFrame.isBulkOrdered = true := rfl
  have hId : fullFrame.streamId = 2 := rfl
  have hOf : Bucket.ofStream buckets 2 =
      { queue := List.replicate n fullFrame, queuedBytes := n * 16384, deficit := 65535 } := by
    simp only at hBucket
    rw [Bucket.ofStream, hBucket]
    rfl
  have hFits : n * 16384 + 16384 ≤ 1024 * 1024 := by omega
  have hBudget : n * 16384 + 16384 ≤ 64 * 1024 * 1024 := by omega
  have hSum : (n + 1) * 16384 = n * 16384 + 16384 := by omega
  simp [run, feed, arrival, step, send, hasRoom, consume, pollSpace, pollControl, pollBulk, atArm,
    popBulk, enqueueBucket, hOrdered, hId, hOf, payloadLen_fullFrame, SchedulerConfig.limits,
    linkOutboundQueue, maxFramePayload, hSum, List.replicate_succ', hFits, hBudget]

theorem saving_feed {n : Nat} (h : Saving n s) (hn : n < 63) :
    Saving (n + 1) (run step s feed) := by
  rw [run_feed h hn]
  refine ⟨h.limits, h.bulk, h.control, h.opened, h.consumer, h.parked, h.bulkClosed,
    h.controlClosed, h.priority, ?_, ?_, rfl, h.writerDone, h.writer⟩
  · simp [AList.keys_insert, h.keys]
  · exact AList.lookup_insert _

theorem saving_feeds {n : Nat} (hn : n ≤ 63) :
    Saving n (run step (spawn {}) (trickle ++ (List.replicate n feed).flatten)) := by
  induction n with
  | zero => exact saving_trickle
  | succ n ih =>
    rw [List.replicate_succ', List.flatten_append, List.flatten_singleton, ← List.append_assoc,
      run_append]
    exact saving_feed (ih (by omega)) (by omega)

/-- The stream has sent a byte, and then eight large frames come in. -/
def burst : List Label :=
  trickle ++ (List.replicate 8 feed).flatten ++ [.drain]

/-- The next round takes seven of them, from a budget of four. -/
theorem saved_credit_exceeds_round :
    (run step (spawn {}) burst).writer = .control [] true ∧
      [2].Perm (run step (spawn {}) burst).buckets.keys ∧
      ({} : SchedulerConfig).limits.roundBudget + maxFramePayload <
        Bucket.bytes ((run step (spawn {}) burst).takenFrom [2] 2) := by
  have hSaving := saving_feeds (show 8 ≤ 63 by decide)
  rw [burst, run_append]
  set s := run step (spawn {}) (trickle ++ (List.replicate 8 feed).flatten)
  have hDrain : run step s [.drain] = { s with priority := [], writer := .control [] true } := by
    simp [run, step, drain, hSaving.writer, hSaving.priority]
  have hOf : Bucket.ofStream s.buckets 2 =
      { queue := List.replicate 8 fullFrame, queuedBytes := 8 * 16384, deficit := 65535 } := by
    rw [Bucket.ofStream, hSaving.bucket]
    rfl
  have hId : fullFrame.streamId = 2 := rfl
  rw [hDrain]
  refine ⟨rfl, by rw [hSaving.keys], ?_⟩
  simp [takenFrom, batch, hOf, hSaving.limits, SchedulerConfig.limits, maxFramePayload,
    Bucket.visit, Bucket.affordable, List.replicate_succ, payloadLen_fullFrame, hId]

end Scheduler

end WaitAgent.Relay
