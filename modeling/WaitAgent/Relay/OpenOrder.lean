import WaitAgent.Relay.Egress

/-!
# Streams are opened before they are used

A stream that the relay opens towards a node is announced on the control lane, and its
traffic follows on the bulk lane.  Between the drain of the priority queue and the round
over the buckets the writer holds no lock; an announcement and a first frame that arrive in
between meet the round before the next drain.  Without such a round the order holds.
-/

namespace WaitAgent.Relay

open Verified Mux

/-- The frame opens stream `i`. -/
def opensStream (i : Nat) : Frame → Bool
  | .openStream streamId _ => streamId = i
  | _ => false

/-- Of the frames that went out, the traffic of an announced stream stands behind its
announcement. -/
def OpenedFirst (accepted written : List Frame) : Prop :=
  ∀ sent frame rest, written = sent ++ frame :: rest → frame.isBulkOrdered = true →
    (∃ f ∈ accepted, opensStream frame.streamId f = true) →
      ∃ f ∈ sent, opensStream frame.streamId f = true

/-- Another announcement concerns no frame that has gone out. -/
theorem OpenedFirst.accept {accepted written : List Frame} (h : OpenedFirst accepted written)
    (hSent : ∀ frame ∈ written, frame ∈ accepted) {frame : Frame}
    (hNew : ∀ i, opensStream i frame = true →
      ∀ f ∈ accepted, f.streamId = i → f.isBulkOrdered = false) :
    OpenedFirst (accepted ++ [frame]) written := by
  rintro sent f rest hWritten hBulk ⟨o, hMem, hOpens⟩
  rcases List.mem_append.mp hMem with hOld | hLast
  · exact h sent f rest hWritten hBulk ⟨o, hOld, hOpens⟩
  · rw [List.mem_singleton.mp hLast] at hOpens
    have hAccepted : f ∈ accepted := hSent f (by simp [hWritten])
    rw [hNew _ hOpens f hAccepted rfl] at hBulk
    cases hBulk

theorem OpenedFirst.append {accepted written : List Frame} {frame : Frame}
    (h : OpenedFirst accepted written)
    (hFrame : frame.isBulkOrdered = true →
      (∃ f ∈ accepted, opensStream frame.streamId f = true) →
        ∃ f ∈ written, opensStream frame.streamId f = true) :
    OpenedFirst accepted (written ++ [frame]) := by
  intro sent f rest hWritten hBulk hOpens
  rcases List.eq_nil_or_concat rest with rfl | ⟨rest, last, rfl⟩
  · obtain ⟨rfl, hSame⟩ := List.append_inj' hWritten rfl
    cases hSame
    exact hFrame hBulk hOpens
  · rw [List.concat_eq_append, ← List.cons_append, ← List.append_assoc] at hWritten
    exact h sent f rest (List.append_inj' hWritten rfl).1 hBulk hOpens

namespace Lanes

structure Ordered (l : Lanes) : Prop where
  /-- No control frame gets lost. -/
  kept : ∀ frame ∈ l.accepted, frame.isBulkOrdered = false →
    frame ∈ l.written ∨ frame ∈ l.taken ∨ frame ∈ l.control
  sent : ∀ frame ∈ l.written ++ l.taken, frame ∈ l.accepted
  control : ∀ frame ∈ l.control, frame ∈ l.accepted ∧ frame.isBulkOrdered = false
  bulk : ∀ i, ∀ frame ∈ l.bulk i, frame ∈ l.accepted
  /-- What the writer has taken of a stream was announced before. -/
  opened : ∀ frame ∈ l.taken, frame.isBulkOrdered = true →
    (∃ f ∈ l.accepted, opensStream frame.streamId f = true) →
      ∃ f ∈ l.written, opensStream frame.streamId f = true
  first : OpenedFirst l.accepted l.written

variable {l l' : Lanes}

/-- An announcement comes before the traffic that it announces. -/
theorem Ordered.accept (h : l.Ordered) {frame : Frame}
    (hNew : ∀ i, opensStream i frame = true →
      ∀ f ∈ l.accepted, f.streamId = i → f.isBulkOrdered = false) :
    (l.accept frame).Ordered := by
  have hOld (f : Frame) (hMem : f ∈ l.accepted) : f ∈ l.accepted ++ [frame] :=
    List.mem_append_left _ hMem
  have hLast : frame ∈ l.accepted ++ [frame] := by simp
  constructor
  case kept =>
    intro f hMem hControl
    rcases List.mem_append.mp hMem with hMem | hMem
    · rcases h.kept f hMem hControl with hWritten | hTaken | hWaits
      · exact Or.inl hWritten
      · exact Or.inr (Or.inl hTaken)
      · refine Or.inr (Or.inr ?_)
        simp only [Lanes.accept]
        split_ifs
        · exact hWaits
        · exact List.mem_append_left _ hWaits
    · rw [List.mem_singleton.mp hMem] at hControl ⊢
      simp [Lanes.accept, hControl]
  case sent => exact fun f hMem => hOld f (h.sent f hMem)
  case control =>
    intro f hMem
    simp only [Lanes.accept] at hMem
    split_ifs at hMem with hBulk
    · exact ⟨hOld f (h.control f hMem).1, (h.control f hMem).2⟩
    · rcases List.mem_append.mp hMem with hMem | hMem
      · exact ⟨hOld f (h.control f hMem).1, (h.control f hMem).2⟩
      · rw [List.mem_singleton.mp hMem]
        exact ⟨hLast, by simpa using hBulk⟩
  case bulk =>
    intro i f hMem
    simp only [Lanes.accept] at hMem
    split_ifs at hMem
    · rcases List.mem_append.mp hMem with hMem | hMem
      · exact hOld f (h.bulk i f hMem)
      · rw [List.mem_singleton.mp hMem]
        exact hLast
    · exact hOld f (h.bulk i f hMem)
  case opened =>
    rintro f hTaken hBulk ⟨o, hMem, hOpens⟩
    rcases List.mem_append.mp hMem with hMem | hMem
    · exact h.opened f hTaken hBulk ⟨o, hMem, hOpens⟩
    · -- a stream is not announced when its traffic is under way
      rw [List.mem_singleton.mp hMem] at hOpens
      rw [hNew _ hOpens f (h.sent f (List.mem_append_right _ hTaken)) rfl] at hBulk
      cases hBulk
  case first => exact h.first.accept (fun f hMem => h.sent f (List.mem_append_left _ hMem)) hNew

theorem Ordered.drain (h : l.Ordered) (hDrain : l.Drain l') : l'.Ordered := by
  have hTaken (f : Frame) (hMem : f ∈ l'.taken) : f ∈ l.accepted ∧ f.isBulkOrdered = false := by
    apply h.control
    rw [hDrain.control_eq]
    exact List.mem_append_left _ hMem
  constructor
  case kept =>
    intro f hMem hControl
    rw [hDrain.accepted_eq] at hMem
    rw [hDrain.written_eq]
    have hPlace := h.kept f hMem hControl
    rw [hDrain.idle, hDrain.control_eq, List.mem_append] at hPlace
    simpa using hPlace
  case sent =>
    intro f hMem
    rw [hDrain.written_eq] at hMem
    rw [hDrain.accepted_eq]
    rcases List.mem_append.mp hMem with hWritten | hNew
    · exact h.sent f (List.mem_append_left _ hWritten)
    · exact (hTaken f hNew).1
  case control =>
    intro f hMem
    rw [hDrain.accepted_eq]
    apply h.control
    rw [hDrain.control_eq]
    exact List.mem_append_right _ hMem
  case bulk =>
    rw [hDrain.bulk_eq, hDrain.accepted_eq]
    exact h.bulk
  case opened =>
    intro f hMem hBulk
    rw [(hTaken f hMem).2] at hBulk
    cases hBulk
  case first =>
    rw [hDrain.accepted_eq, hDrain.written_eq]
    exact h.first

/-- A round that takes nothing from a stream whose announcement still waits. -/
theorem Ordered.serve (h : l.Ordered) (hServe : l.Serve l')
    (hPrompt : ∀ frame ∈ l'.taken, ∀ f ∈ l.control, opensStream frame.streamId f = false) :
    l'.Ordered := by
  have hStream (f : Frame) (hMem : f ∈ l'.taken) : f ∈ l.bulk f.streamId := by
    rw [hServe.bulk_eq]
    exact List.mem_append_left _ (by simpa using hMem)
  constructor
  case kept =>
    intro f hMem hControl
    rw [hServe.accepted_eq] at hMem
    rw [hServe.written_eq, hServe.control_eq]
    have hPlace := h.kept f hMem hControl
    rw [hServe.idle] at hPlace
    rcases hPlace with hWritten | hNone | hWaits
    · exact Or.inl hWritten
    · cases hNone
    · exact Or.inr (Or.inr hWaits)
  case sent =>
    intro f hMem
    rw [hServe.written_eq] at hMem
    rw [hServe.accepted_eq]
    rcases List.mem_append.mp hMem with hWritten | hNew
    · exact h.sent f (List.mem_append_left _ hWritten)
    · exact h.bulk _ f (hStream f hNew)
  case control =>
    rw [hServe.control_eq, hServe.accepted_eq]
    exact h.control
  case bulk =>
    intro i f hMem
    rw [hServe.accepted_eq]
    apply h.bulk i
    rw [hServe.bulk_eq]
    exact List.mem_append_right _ hMem
  case opened =>
    rintro f hMem - ⟨o, hAccepted, hOpens⟩
    rw [hServe.accepted_eq] at hAccepted
    rw [hServe.written_eq]
    have hControl : o.isBulkOrdered = false := by
      cases o <;> simp_all [opensStream, Frame.isBulkOrdered]
    -- the announcement is neither lost nor waiting, and the writer holds nothing
    have hPlace := h.kept o hAccepted hControl
    rw [hServe.idle] at hPlace
    rcases hPlace with hWritten | hNone | hWaits
    · exact ⟨o, hWritten, hOpens⟩
    · cases hNone
    · rw [hPrompt f hMem o hWaits] at hOpens
      cases hOpens
  case first =>
    rw [hServe.accepted_eq, hServe.written_eq]
    exact h.first

theorem Ordered.emit (h : l.Ordered) {frame : Frame} (hEmit : l.Emit l' frame) : l'.Ordered := by
  have hPlaces : l'.written ++ l'.taken = l.written ++ l.taken := by
    rw [hEmit.written_eq, hEmit.taken_eq, List.append_assoc, List.singleton_append]
  have hFrame : frame ∈ l.taken := by
    rw [hEmit.taken_eq]
    exact List.mem_cons_self
  constructor
  case kept =>
    intro f hMem hControl
    rw [hEmit.accepted_eq] at hMem
    rw [hEmit.control_eq, ← or_assoc, ← List.mem_append, hPlaces, List.mem_append, or_assoc]
    exact h.kept f hMem hControl
  case sent =>
    rw [hPlaces, hEmit.accepted_eq]
    exact h.sent
  case control =>
    rw [hEmit.control_eq, hEmit.accepted_eq]
    exact h.control
  case bulk =>
    rw [hEmit.bulk_eq, hEmit.accepted_eq]
    exact h.bulk
  case opened =>
    intro f hMem hBulk hOpens
    rw [hEmit.accepted_eq] at hOpens
    have hBefore : f ∈ l.taken := by
      rw [hEmit.taken_eq]
      exact List.mem_cons_of_mem _ hMem
    obtain ⟨o, hWritten, hOpens⟩ := h.opened f hBefore hBulk hOpens
    rw [hEmit.written_eq]
    exact ⟨o, List.mem_append_left _ hWritten, hOpens⟩
  case first =>
    rw [hEmit.accepted_eq, hEmit.written_eq]
    exact OpenedFirst.append h.first (h.opened frame hFrame)

end Lanes

namespace Scheduler

variable {s : Scheduler}

/-! ## The scheduler -/

/-- Producers announce a stream before they send its traffic. -/
def announces (s : Scheduler) : Label → Bool
  | .send frame =>
      s.accepted.all fun f => !(f.isBulkOrdered && opensStream f.streamId frame)
  | _ => true

/-- A round serves a stream whose announcement still waits for a drain. -/
def overtakes (s : Scheduler) : Label → Bool
  | .round _ =>
      match s.writer with
      | .control [] _ =>
          s.buckets.entries.any fun e =>
            !e.2.queue.isEmpty && (s.priority ++ s.control).any (opensStream e.1)
      | _ => false
  | _ => false

structure OrderInv (s : Scheduler) : Prop where
  wf : s.Wf
  sent : ∀ frame ∈ s.written, frame ∈ s.accepted
  first : OpenedFirst s.accepted s.written
  running : s.halted = false → s.lanes.Ordered

theorem orderInv_spawn (config : SchedulerConfig) : (spawn config).OrderInv where
  wf := wf_spawn config
  sent _ hMem := nomatch hMem
  first := by
    intro sent frame rest hWritten
    simp [spawn] at hWritten
  running _ := by
    constructor
    case first =>
      intro sent frame rest hWritten
      simp [lanes, spawn] at hWritten
    all_goals simp [lanes, spawn, Writer.left, Bucket.ofStream]

theorem of_announces {frame : Frame} (h : s.announces (.send frame) = true) (i : Nat)
    (hOpens : opensStream i frame = true) :
    ∀ f ∈ s.accepted, f.streamId = i → f.isBulkOrdered = false := by
  intro f hMem hId
  have hFrame := List.all_eq_true.mp h f hMem
  rw [hId, hOpens] at hFrame
  simpa using hFrame

/-- A round that overtakes nothing takes from a stream only behind its announcement. -/
theorem of_overtakes (hWf : s.Wf) {order : List Nat} {quiet : Bool}
    (hWriter : s.writer = .control [] quiet) (hOrder : order.Perm s.buckets.keys)
    (h : s.overtakes (.round order) = false) :
    ∀ frame ∈ (s.round order).lanes.taken, ∀ f ∈ s.lanes.control,
      opensStream frame.streamId f = false := by
  intro frame hTaken f hWaits
  have hQueued := mem_bucket_of_round hWf hWriter hOrder hTaken
  simp only [overtakes, hWriter, List.any_eq_false] at h
  unfold Bucket.ofStream at hQueued
  cases hBucket : s.buckets.lookup frame.streamId with
  | none =>
    rw [hBucket] at hQueued
    cases hQueued
  | some bucket =>
    rw [hBucket] at hQueued
    have hEntry := h ⟨frame.streamId, bucket⟩ (AList.lookup_eq_some_iff.mp hBucket)
    have hNe : bucket.queue.isEmpty = false := by
      simpa using List.ne_nil_of_mem hQueued
    rw [hNe] at hEntry
    have hNone : ((s.priority ++ s.control).any (opensStream frame.streamId)) = false := by
      simpa using hEntry
    exact Bool.eq_false_iff.mpr (List.any_eq_false.mp hNone f hWaits)

theorem OrderInv.of_ordered (hWf : s.Wf) (h : s.lanes.Ordered) : s.OrderInv where
  wf := hWf
  sent frame hMem := h.sent frame (List.mem_append_left _ hMem)
  first := h.first
  running _ := h

theorem OrderInv.step (hInv : s.OrderInv) {l : Label} (hAnnounces : s.announces l = true)
    (hPrompt : s.overtakes l = false) : (s.step l).OrderInv := by
  by_cases hHalted : (s.step l).halted = true
  · have hWritten := written_of_halted hHalted
    have hAccepted := (s.step_ingress l).2
    have hRuns (hRuns : (s.step l).halted = false) : (s.step l).lanes.Ordered := by
      rw [hHalted] at hRuns
      cases hRuns
    rcases hAccepted with hAccepted | ⟨frame, rfl, hAccepted⟩
    · exact ⟨hInv.wf.step l, by rw [hWritten, hAccepted]; exact hInv.sent,
        by rw [hWritten, hAccepted]; exact hInv.first, hRuns⟩
    · refine ⟨hInv.wf.step _, ?_, ?_, hRuns⟩
      · rw [hWritten, hAccepted]
        exact fun f hMem => List.mem_append_left _ (hInv.sent f hMem)
      · rw [hWritten, hAccepted]
        exact hInv.first.accept hInv.sent (of_announces hAnnounces)
  · have hRuns : (s.step l).halted = false := by simpa using hHalted
    have hOrdered := hInv.running (running_of_step hRuns)
    apply OrderInv.of_ordered (hInv.wf.step l)
    obtain hSame | ⟨frame, rfl, hSent⟩ | hDrain | ⟨order, quiet, rfl, hWriter, hOrder, hServe⟩ |
      ⟨frame, hEmit⟩ := step_cases hInv.wf l hRuns
    · rwa [hSame]
    · rw [hSent]
      exact hOrdered.accept (of_announces hAnnounces)
    · exact hOrdered.drain hDrain
    · exact hOrdered.serve hServe (of_overtakes hInv.wf hWriter hOrder hPrompt)
    · exact hOrdered.emit hEmit

/-- The frames of an announced stream go out behind its announcement, unless a round takes
them while the announcement waits. -/
theorem opened_before_traffic (config : SchedulerConfig) (labels : List Label)
    (hLabels : EachStep step (fun s l => s.announces l = true ∧ s.overtakes l = false)
      (spawn config) labels) :
    Always step (fun s => OpenedFirst s.accepted s.written) (spawn config) labels :=
  Always.of_eachStep (I := OrderInv) (fun _ _ hInv h => hInv.step h.1 h.2)
    (fun _ hInv => hInv.first) labels _ hLabels (orderInv_spawn config)

/-! ## An announcement that is overtaken -/

/-- A stream is announced, and its first frame follows. -/
def firstFrames : List Label :=
  [.send (.openStream 2 "source"), .send (.data 2 [7])]

/-- The consumer classifies a control frame, then a bulk frame. -/
def classifyBoth : List Label :=
  [.consume, .consume, .consume, .consume, .consume]

/-- Both arrive before the writer drains the priority queue. -/
theorem opened_before_first_byte :
    Always step (fun s => OpenedFirst s.accepted s.written) (spawn {})
      (firstFrames ++ classifyBoth ++ [.drain, .emit, .round [2], .emit]) :=
  opened_before_traffic {} _ (by decide)

/-- Both arrive between the drain and the round. -/
theorem first_byte_overtakes_open :
    ¬ OpenedFirst
      (run step (spawn {})
        ([.drain] ++ firstFrames ++ classifyBoth ++ [.round [2], .emit])).accepted
      (run step (spawn {})
        ([.drain] ++ firstFrames ++ classifyBoth ++ [.round [2], .emit])).written := by
  intro h
  obtain ⟨f, hMem, -⟩ := h [] (.data 2 [7]) [] (by decide) rfl
    ⟨.openStream 2 "source", by decide, rfl⟩
  cases hMem

end Scheduler

end WaitAgent.Relay
