import WaitAgent.Relay.Pairing

/-!
# Admission and its limits

A node that is not registered is admitted if the table has room for it, and a stream if the
routes have; the insertion comes later, behind another lock.  Two that are admitted on one free
place exceed the limit.  If every admission also leaves room for those that have been admitted
and not inserted, then both limits hold.
-/

namespace WaitAgent.Relay

open Verified Mux

/-! ## What a step does to the table -/

/-- The node that a registration is about to enter. -/
def Task.entering : Task → Option String
  | .admitted nodeId => some nodeId
  | .sending _ next => next.entering
  | .publishing _ _ _ next => next.entering
  | _ => none

namespace RelayConnectionTable

variable {ω : Type*} {t : RelayConnectionTable ω} {nodeId n : String}

theorem mem_of_removeIfCurrent {connectionId : Nat}
    (hMem : n ∈ (t.removeIfCurrent nodeId connectionId).2.entries) : n ∈ t.entries := by
  unfold removeIfCurrent at hMem
  split at hMem
  · split_ifs at hMem
    · exact (AList.mem_erase.mp hMem).2
    · exact hMem
  · exact hMem

theorem mem_of_retireNotifying {code : RelayErrorCode}
    (hMem : n ∈ (t.retireNotifying nodeId code).2.entries) : n ∈ t.entries := by
  unfold retireNotifying at hMem
  split at hMem
  · exact (AList.mem_erase.mp hMem).2
  · exact hMem

theorem mem_setLabels (t : RelayConnectionTable ω) (nodeId : String) (connectionId : Nat)
    (labels : List String) (n : String) :
    n ∈ (t.setLabels nodeId connectionId labels).entries ↔ n ∈ t.entries := by
  unfold setLabels
  split
  · next entry hEntry =>
    split_ifs
    · have hMem : nodeId ∈ t.entries := AList.mem_iff_lookup.mpr ⟨entry, hEntry⟩
      rw [AList.mem_insert]
      exact or_iff_right_of_imp fun hNode => hNode ▸ hMem
    · rfl
  · rfl

end RelayConnectionTable

namespace RelayServer

variable {config : ServerConfig} {s : RelayServer} {l : ServerLabel}

/-- No entry is new, or a registration takes one of its three steps. -/
inductive TableStep (config : ServerConfig) (s : RelayServer) (l : ServerLabel) :
    RelayServer → Prop
  | fewer {t : RelayServer} : (∀ n ∈ t.table.entries, n ∈ s.table.entries) →
      (∀ i, (t.tasks i).entering = none ∨ (t.tasks i).entering = (s.tasks i).entering) →
      TableStep config s l t
  | look {i : Nat} {fingerprint : Fingerprint} {nodeId : String} :
      l = .read i (.register nodeId) → s.tasks i = .connected fingerprint →
      eqIgnoreAsciiCase nodeId fingerprint.1 = true →
      TableStep config s l
        (s.put i (if (s.table.lookup nodeId).isSome then .admitted nodeId else .checking nodeId))
  | pass {i : Nat} {nodeId : String} {choice : Choice} : l = .next i choice →
      s.tasks i = .checking nodeId → admitRegister config s.table.len = true →
      TableStep config s l (s.put i (.admitted nodeId))
  | register {i : Nat} {nodeId : String} {choice : Choice} : l = .next i choice →
      s.tasks i = .admitted nodeId → TableStep config s l (s.register i nodeId choice.now)

theorem TableStep.refl (s : RelayServer) : TableStep config s l s :=
  .fewer (fun _ => id) fun _ => .inr rfl

variable {t : RelayServer} {task : Task} {i : Nat}

theorem TableStep.put (hEntries : ∀ n ∈ t.table.entries, n ∈ s.table.entries)
    (hTasks : t.tasks = s.tasks)
    (hTask : task.entering = none ∨ task.entering = (s.tasks i).entering) :
    TableStep config s l (t.put i task) := by
  refine .fewer hEntries fun j => ?_
  rw [tasks_put, hTasks]
  split_ifs with hj
  · exact hj ▸ hTask
  · exact .inr rfl

theorem TableStep.spawn (hEntries : ∀ n ∈ t.table.entries, n ∈ s.table.entries)
    (hTasks : t.tasks = s.tasks) (hTask : task.entering = none) :
    TableStep config s l (t.spawn task) := by
  refine .fewer hEntries fun j => ?_
  rw [tasks_spawn, hTasks]
  split_ifs
  · exact .inl hTask
  · exact .inr rfl

theorem tableStep_removeCurrent (i : Nat) (self : RegisteredLink) {next : Task}
    (hNext : next.entering = none) : TableStep config s l (s.removeCurrent i self next) := by
  refine .put (fun n => RelayConnectionTable.mem_of_removeIfCurrent) rfl (.inl ?_)
  split_ifs
  · exact hNext
  · exact hNext

theorem tableStep_next (s : RelayServer) (i : Nat) (choice : Choice) (hTask : s.tasks i = task) :
    TableStep config s (.next i choice) (s.next config i choice task) := by
  have hSame (n : String) (hn : n ∈ s.table.entries) : n ∈ s.table.entries := hn
  cases task with
  | absent | connected | serving | gone | returned => exact .refl s
  | checking nodeId =>
    simp only [next]
    split_ifs with hRoom
    · exact .pass rfl hTask hRoom
    · exact .put hSame rfl (.inl rfl)
  | admitted nodeId => exact .register rfl hTask
  | registered self previous =>
    cases previous with
    | none => exact .put hSame rfl (.inl rfl)
    | some serial => exact .put hSame rfl (.inl rfl)
  | touching self serial => exact .put hSame rfl (.inl rfl)
  | watching self target online inserted =>
    cases inserted with
    | false => exact .put hSame rfl (.inl rfl)
    | true => exact .put hSame rfl (.inl rfl)
  | opening self streamId target stage =>
    cases stage with
    | resolved =>
      simp only [next, admitOpen]
      split_ifs
      · exact .put hSame rfl (.inl rfl)
      · exact .put hSame rfl (.inl rfl)
      · exact .put hSame rfl (.inl rfl)
    | admitted => exact .put hSame rfl (.inl rfl)
    | numbered relayStreamId => exact .put hSame rfl (.inl rfl)
  | sending forwards next =>
    cases forwards with
    | nil => exact .put hSame rfl (.inr (hTask ▸ rfl))
    | cons forward forwards => exact .put hSame rfl (.inr (hTask ▸ rfl))
  | publishing nodeId online senders next =>
    simp only [RelayServer.next, publish]
    split <;> exact .put hSame rfl (.inr (hTask ▸ rfl))
  | leaving self => exact tableStep_removeCurrent i self rfl
  | unwatching self => exact .put hSame rfl (.inl rfl)
  | tearing self => exact .put hSame rfl (.inl rfl)
  | removing fingerprint =>
    have hFewer (n : String) (hn : n ∈ (s.table.retireNotifying
        (config.toLowercase fingerprint) .nodeRevoked).2.entries) : n ∈ s.table.entries :=
      RelayConnectionTable.mem_of_retireNotifying hn
    simp only [next, retire]
    split <;> next hRetire =>
      rw [hRetire] at hFewer
      exact .put hFewer rfl (.inl rfl)
  | revoked fingerprint => exact .put hSame rfl (.inl rfl)
  | sweeping evicted =>
    simp only [next, evictOne]
    split
    · exact .put hSame rfl (.inl rfl)
    · split_ifs
      · exact .put hSame rfl (.inl rfl)
      · exact .refl s

theorem tableStep_read (s : RelayServer) (i : Nat) (frame : Frame) (hTask : s.tasks i = task) :
    TableStep config s (.read i frame) (s.read i frame task) := by
  have hSame (n : String) (hn : n ∈ s.table.entries) : n ∈ s.table.entries := hn
  unfold read
  split
  · next fingerprint =>
    unfold registerLink
    split
    · next nodeId =>
      by_cases hOwn : eqIgnoreAsciiCase nodeId fingerprint.1 = true
      · rw [if_pos hOwn]
        exact .look rfl hTask hOwn
      · rw [if_neg hOwn]
        exact .put hSame rfl (.inl rfl)
    · exact .put hSame rfl (.inl rfl)
  · next self =>
    cases frame with
    | heartbeat =>
      simp only [serve]
      split
      · exact .put hSame rfl (.inl rfl)
      · exact .refl s
    | unregister => exact tableStep_removeCurrent i self rfl
    | adminRequest _ _ => exact .refl s
    | openStream streamId targetNodeId =>
      simp only [serve, handleOpenStream]
      split_ifs
      · exact .put hSame rfl (.inl rfl)
      · split <;> exact .put hSame rfl (.inl rfl)
    | _ => exact .put hSame rfl (.inl rfl)
  · exact .refl s

theorem tableStep (s : RelayServer) (l : ServerLabel) :
    TableStep config s l (s.step config l) := by
  have hSame (n : String) (hn : n ∈ s.table.entries) : n ∈ s.table.entries := hn
  cases l with
  | accept fingerprint => exact .spawn hSame rfl rfl
  | read i frame => exact s.tableStep_read i frame rfl
  | quit i =>
    simp only [step, quit]
    split
    · exact .put hSame rfl (.inl rfl)
    · exact .put hSame rfl (.inl rfl)
    · exact .refl s
  | announce i labels =>
    simp only [step, announce]
    split
    · exact .fewer (fun n => (s.table.mem_setLabels _ _ labels n).mp) fun _ => .inr rfl
    · exact .refl s
  | next i choice => exact s.tableStep_next i choice rfl
  | remove fingerprint unlisted =>
    refine .spawn hSame rfl ?_
    split_ifs <;> rfl
  | sweep now maxIdle =>
    exact .spawn (fun n hn => ((s.table.mem_evictIdle now maxIdle n).mp hn).1) rfl rfl

/-! ## Nodes -/

/-- The nodes that are registered or about to be entered. -/
def claimedNodes (s : RelayServer) : Finset String :=
  s.table.entries.keys.toFinset ∪
    ((List.range s.spawned).filterMap fun i => (s.tasks i).entering).toFinset

theorem Wf.mem_claimedNodes (h : s.Wf) {n : String} :
    n ∈ s.claimedNodes ↔ n ∈ s.table.entries ∨ ∃ i, (s.tasks i).entering = some n := by
  simp only [claimedNodes, Finset.mem_union, List.mem_toFinset, List.mem_filterMap, List.mem_range,
    AList.mem_keys]
  refine or_congr_right ⟨fun ⟨i, _, hi⟩ => ⟨i, hi⟩, fun ⟨i, hi⟩ => ⟨i, ?_, hi⟩⟩
  by_contra hNone
  rw [h i (Nat.le_of_not_lt hNone)] at hi
  cases hi

theorem len_le_claimedNodes (s : RelayServer) : s.table.len ≤ s.claimedNodes.card := by
  have hLen : s.table.len = s.table.entries.keys.toFinset.card :=
    (List.toFinset_card_of_nodup s.table.entries.nodupKeys).symm
  rw [hLen]
  exact Finset.card_le_card Finset.subset_union_left

/-- Only the check of a place claims a node. -/
theorem claimedNodes_step (hWf : s.Wf) (hWf' : t.Wf) (hStep : TableStep config s l t) :
    t.claimedNodes ⊆ s.claimedNodes ∨ ∃ i nodeId choice, l = .next i choice ∧
      s.tasks i = .checking nodeId ∧ admitRegister config s.table.len = true ∧
      t.claimedNodes ⊆ insert nodeId s.claimedNodes := by
  have hTake {u : RelayServer} {n : String} (hu : u.Wf) := (hu.mem_claimedNodes (n := n)).mp
  have hGive {n : String} := (hWf.mem_claimedNodes (n := n)).mpr
  cases hStep with
  | fewer hEntries hTasks =>
    refine .inl fun n hn => hGive ?_
    rcases hTake hWf' hn with hEntry | ⟨i, hi⟩
    · exact .inl (hEntries n hEntry)
    · rcases hTasks i with hNone | hSame
      · rw [hNone] at hi
        cases hi
      · exact .inr ⟨i, hSame ▸ hi⟩
  | @look i fingerprint nodeId _ _ _ =>
    refine .inl fun n hn => hGive ?_
    rcases hTake hWf' hn with hEntry | ⟨j, hj⟩
    · exact .inl hEntry
    · rw [tasks_put] at hj
      split_ifs at hj with hSame hKnown
      · cases hj
        exact .inl (AList.lookup_isSome.mp hKnown)
      · cases hj
      · exact .inr ⟨j, hj⟩
  | @pass i nodeId choice hLabel hTask hRoom =>
    refine .inr ⟨i, nodeId, choice, hLabel, hTask, hRoom, fun n hn => ?_⟩
    rw [Finset.mem_insert]
    rcases hTake hWf' hn with hEntry | ⟨j, hj⟩
    · exact .inr (hGive (.inl hEntry))
    · rw [tasks_put] at hj
      split_ifs at hj with hSame
      · cases hj
        exact .inl rfl
      · exact .inr (hGive (.inr ⟨j, hj⟩))
  | @register i nodeId choice hLabel hTask =>
    refine .inl fun n hn => hGive ?_
    rcases hTake hWf' hn with hEntry | ⟨j, hj⟩
    · change n ∈ s.table.entries.insert nodeId _ at hEntry
      rcases (AList.mem_insert _).mp hEntry with rfl | hOld
      · exact .inr ⟨i, by rw [hTask]; rfl⟩
      · exact .inl hOld
    · change ((s.put i _).tasks j).entering = some n at hj
      rw [tasks_put] at hj
      split_ifs at hj with hSame
      · cases hj
      · exact .inr ⟨j, hj⟩

/-! ## Streams -/

/-- The opens that have been admitted and are not routed. -/
def pendingOpens (s : RelayServer) : Finset Nat :=
  (Finset.range s.spawned).filter fun i => (s.tasks i).admittedOpen = true

theorem Wf.mem_pendingOpens (h : s.Wf) {i : Nat} :
    i ∈ s.pendingOpens ↔ (s.tasks i).admittedOpen = true := by
  rw [pendingOpens, Finset.mem_filter, Finset.mem_range, and_iff_right_iff_imp]
  intro hi
  by_contra hNone
  rw [h i (Nat.le_of_not_lt hNone)] at hi
  cases hi

/-- The streams that are routed or about to be. -/
def claimedStreams (s : RelayServer) : Nat :=
  s.routing.streamCount + s.pendingOpens.card

theorem streamCount_le {t t' : RoutingTable} (h : t'.Within t) :
    t'.streamCount ≤ t.streamCount :=
  Nat.div_le_div_right (AList.length_keys_le fun _ => h.mem)

theorem streamCount_openRoute_le (t : RoutingTable) (source target : RouteKey) :
    (t.openRoute source target).streamCount ≤ t.streamCount + 1 := by
  have hSource := AList.length_keys_insert_le t source { peer := target }
  have hTarget := AList.length_keys_insert_le (t.insert source { peer := target }) target
    { peer := source }
  simp only [RoutingTable.streamCount, RoutingTable.openRoute]
  omega

theorem claimedStreams_fewer (hWf : s.Wf) (hWf' : t.Wf)
    (hCount : t.routing.streamCount ≤ s.routing.streamCount)
    (hTasks : ∀ i, (t.tasks i).admittedOpen = true → (s.tasks i).admittedOpen = true) :
    t.claimedStreams ≤ s.claimedStreams :=
  Nat.add_le_add hCount (Finset.card_le_card fun i hi =>
    hWf.mem_pendingOpens.mpr (hTasks i (hWf'.mem_pendingOpens.mp hi)))

/-- The same, when the task that goes on has no open of its own. -/
theorem claimedStreams_put {u : RelayServer} (hWf : s.Wf) (hWf' : (u.put i task).Wf)
    (hCount : u.routing.streamCount ≤ s.routing.streamCount) (hTasks : u.tasks = s.tasks)
    (hTask : task.admittedOpen = true → (s.tasks i).admittedOpen = true) :
    (u.put i task).claimedStreams ≤ s.claimedStreams := by
  refine claimedStreams_fewer hWf hWf' hCount fun j hj => ?_
  rw [tasks_put, hTasks] at hj
  split_ifs at hj with hSame
  · exact hSame ▸ hTask hj
  · exact hj

/-- An open that is routed is pending no longer. -/
theorem claimedStreams_openRoute {self : RegisteredLink} {streamId relayStreamId : Nat}
    {target : RoutingTarget} (hWf : s.Wf)
    (hWf' : (s.openRoute i self streamId target relayStreamId).Wf)
    (hTask : s.tasks i = .opening self streamId target (.numbered relayStreamId)) :
    (s.openRoute i self streamId target relayStreamId).claimedStreams ≤ s.claimedStreams := by
  have hPending : i ∈ s.pendingOpens := hWf.mem_pendingOpens.mpr (by rw [hTask]; rfl)
  have hErased : (s.openRoute i self streamId target relayStreamId).pendingOpens ⊆
      s.pendingOpens.erase i := by
    intro j hj
    have hOpen : ((s.put i (.sending _ (.serving self))).tasks j).admittedOpen = true :=
      hWf'.mem_pendingOpens.mp hj
    rw [tasks_put] at hOpen
    split_ifs at hOpen with hSame
    · cases hOpen
    · exact Finset.mem_erase.mpr ⟨hSame, hWf.mem_pendingOpens.mpr hOpen⟩
  have hFewer := Finset.card_le_card hErased
  have hCount : (s.openRoute i self streamId target relayStreamId).routing.streamCount ≤
      s.routing.streamCount + 1 :=
    streamCount_openRoute_le _ _ _
  have hCard := Finset.card_erase_add_one hPending
  unfold claimedStreams
  omega

/-- Only the check of an open claims a stream. -/
theorem claimedStreams_step (hWf : s.Wf) (hWf' : t.Wf) (hStep : RouteStep config s l t) :
    t.claimedStreams ≤ s.claimedStreams ∨ ∃ i choice self streamId target, l = .next i choice ∧
      s.tasks i = .opening self streamId target .resolved ∧
      (s.routing.streamCount < config.maxStreams ∧ choice.overThroughput = false) ∧
      t.claimedStreams ≤ s.claimedStreams + 1 := by
  cases hStep with
  | keep hRoutes hFollows =>
    exact .inl (claimedStreams_fewer hWf hWf' (Nat.le_of_eq (by rw [hRoutes.routing]))
      fun i => (hFollows i).admittedOpen)
  | @admitOpen i self streamId target choice hLabel hTask hRoom =>
    refine .inr ⟨i, choice, self, streamId, target, hLabel, hTask, hRoom, ?_⟩
    have hMore : (s.put i (.opening self streamId target .admitted)).pendingOpens ⊆
        insert i s.pendingOpens := by
      intro j hj
      have hOpen := hWf'.mem_pendingOpens.mp hj
      rw [tasks_put] at hOpen
      split_ifs at hOpen with hSame
      · exact Finset.mem_insert.mpr (.inl hSame)
      · exact Finset.mem_insert.mpr (.inr (hWf.mem_pendingOpens.mpr hOpen))
    have hCard := (Finset.card_le_card hMore).trans (Finset.card_insert_le _ _)
    exact Nat.add_le_add_left hCard _
  | takeRelayStream hTask =>
    exact .inl (claimedStreams_put hWf hWf' (Nat.le_refl _) rfl fun _ => by rw [hTask]; rfl)
  | openRoute hLabel hTask => exact .inl (claimedStreams_openRoute hWf hWf' hTask)
  | @dispatchFrame i self frame hTask =>
    have hParts := RoutingTable.parts_dispatchStream s.routing self.connectionId frame
    exact .inl (claimedStreams_put hWf hWf' (streamCount_le hParts.within) rfl
      fun hNew => by cases hNew)
  | teardown order hTask =>
    exact .inl (claimedStreams_put hWf hWf'
      (streamCount_le (RoutingTable.within_teardownKeys _ _)) rfl fun hNew => by cases hNew)

/-! ## Both limits -/

def WithinLimits (config : ServerConfig) (s : RelayServer) : Prop :=
  s.table.len ≤ config.maxNodes ∧ s.routing.streamCount ≤ config.maxStreams

/-- A node or an open that a check admits has room beside those that were admitted before. -/
def countsPending (config : ServerConfig) (s : RelayServer) : ServerLabel → Bool
  | .next i choice =>
      match s.tasks i with
      | .checking nodeId =>
          admitRegister config s.table.len → (insert nodeId s.claimedNodes).card ≤ config.maxNodes
      | .opening _ _ _ .resolved =>
          s.routing.streamCount < config.maxStreams ∧ choice.overThroughput = false →
            s.claimedStreams < config.maxStreams
      | _ => true
  | _ => true

/-- What is registered, routed or about to be is within the limits. -/
structure Fits (config : ServerConfig) (s : RelayServer) : Prop where
  wf : s.Wf
  nodes : s.claimedNodes.card ≤ config.maxNodes
  streams : s.claimedStreams ≤ config.maxStreams

theorem fits_start (config : ServerConfig) : Fits config {} :=
  ⟨wf_start, Nat.zero_le _, Nat.zero_le _⟩

theorem Fits.step (h : Fits config s) (l : ServerLabel)
    (hCounts : s.countsPending config l = true) : Fits config (s.step config l) := by
  have hWf : (s.step config l).Wf := h.wf.step l
  refine ⟨hWf, ?_, ?_⟩
  · rcases claimedNodes_step h.wf hWf (s.tableStep l) with
      hFewer | ⟨i, nodeId, choice, rfl, hTask, hRoom, hMore⟩
    · exact (Finset.card_le_card hFewer).trans h.nodes
    · simp only [countsPending, hTask, decide_eq_true_eq] at hCounts
      exact (Finset.card_le_card hMore).trans (hCounts hRoom)
  · rcases claimedStreams_step h.wf hWf (s.routeStep l) with
      hFewer | ⟨i, choice, self, streamId, target, rfl, hTask, hRoom, hMore⟩
    · exact hFewer.trans h.streams
    · simp only [countsPending, hTask, decide_eq_true_eq] at hCounts
      exact hMore.trans (hCounts hRoom)

theorem limits_hold (config : ServerConfig) (labels : List ServerLabel)
    (hCounts : EachStep (step config) (fun s l => s.countsPending config l = true) {} labels) :
    Always (step config) (WithinLimits config) {} labels := by
  refine Always.of_eachStep (I := Fits config) (fun _ l h hStep => h.step l hStep) (fun s h => ?_)
    labels {} hCounts (fits_start config)
  exact ⟨s.len_le_claimedNodes.trans h.nodes, (Nat.le_add_right _ _).trans h.streams⟩

/-- Two nodes register at once, and two opens are admitted at once; the third is refused. -/
theorem limits_hold_for_two :
    Always (step { smallConfig with maxNodes := 2, maxStreams := 2 })
      (WithinLimits { smallConfig with maxNodes := 2, maxStreams := 2 }) {}
      ([.accept aNode, .accept bNode, .read 0 (.register aNode.1), .read 1 (.register bNode.1),
        .next 0 {}, .next 1 {}, .next 0 {}, .next 1 {}, .next 0 {}, .next 1 {}, .next 0 {},
        .next 1 {}, .next 0 {}, .next 1 {}, .next 0 {}, .next 1 {},
        .read 0 (.openStream 1 bNode.1), .read 1 (.openStream 1 aNode.1), .next 0 {}, .next 1 {}] ++
        List.replicate 4 (.next 0 {}) ++ List.replicate 4 (.next 1 {}) ++ opens 0 3 bNode.1) :=
  limits_hold _ _ (by decide +kernel)

/-- Two links check the same free place, and two opens. -/
theorem limits_exceeded :
    ¬ WithinLimits { smallConfig with maxNodes := 1 }
        (run (step { smallConfig with maxNodes := 1 }) {}
          [.accept aNode, .accept bNode, .read 0 (.register aNode.1), .read 1 (.register bNode.1),
            .next 0 {}, .next 1 {}, .next 0 {}, .next 1 {}]) ∧
      ¬ WithinLimits { smallConfig with maxStreams := 1 }
        (run (step { smallConfig with maxStreams := 1 }) {}
          (joins 0 aNode ++ joins 1 bNode ++
            [.read 0 (.openStream 1 bNode.1), .read 1 (.openStream 1 aNode.1), .next 0 {},
              .next 1 {}, .next 0 {}, .next 1 {}, .next 0 {}, .next 1 {}])) := by
  simp only [WithinLimits]
  decide +kernel

end RelayServer

end WaitAgent.Relay
