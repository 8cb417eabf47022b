import WaitAgent.Relay.LinkTasks
import WaitAgent.Verified.Pairs

/-!
# The two legs of a stream

Both legs of a stream are entered and taken out together, so the routes of a relay are pairs.
What can break a pair is a key that is entered again while its stream is routed: a node may
reuse an id of its own, and the ids that the relay gives out come round.  If that does not
happen, and no task still holds a frame for such a key, then every leg has its mirror, the
streams are half as many as the legs, and no frame gets from one stream into another.
-/

namespace WaitAgent.Relay

open Verified Mux

/-! ## Routes as pairs -/

namespace RoutingTable

variable {t : RoutingTable} {key : RouteKey} {streamOf : RouteKey → Nat}

/-- The other end of a leg. -/
def peerOf (t : RoutingTable) (key : RouteKey) : Option RouteKey :=
  (t.lookup key).map RouteLeg.peer

theorem peerOf_eq_some {peer : RouteKey} :
    t.peerOf key = some peer ↔ ∃ leg, t.lookup key = some leg ∧ leg.peer = peer := by
  rw [peerOf, Option.map_eq_some_iff]

theorem isSome_peerOf : (t.peerOf key).isSome = true ↔ key ∈ t := by
  rw [peerOf, Option.isSome_map, AList.lookup_isSome]

theorem peerOf_openRoute (t : RoutingTable) (source target key : RouteKey) :
    (t.openRoute source target).peerOf key =
      if key = target then some source else if key = source then some target else t.peerOf key := by
  simp only [peerOf, openRoute, AList.lookup_insert_eq_ite]
  split_ifs <;> rfl

theorem peerOf_erase_erase (t : RoutingTable) (a b key : RouteKey) :
    peerOf ((t.erase a).erase b) key = if key = a ∨ key = b then none else t.peerOf key := by
  simp only [peerOf, AList.lookup_erase_eq_ite]
  by_cases hb : key = b <;> by_cases ha : key = a <;> simp [ha, hb]

/-- A pair of legs goes, or nothing but their states changes. -/
def Parts (t t' : RoutingTable) : Prop :=
  (∀ key, t'.peerOf key = t.peerOf key) ∨
    ∃ a b, t.peerOf a = some b ∧
      ∀ key, t'.peerOf key = if key = a ∨ key = b then none else t.peerOf key

theorem parts_refl (t : RoutingTable) : Parts t t := .inl fun _ => rfl

theorem parts_closeLeg (t : RoutingTable) (key : RouteKey) : Parts t (t.closeLeg key).2 := by
  unfold closeLeg
  split
  · exact parts_refl t
  · next leg hLeg =>
    have hMark (k : RouteKey) :
        peerOf (t.insert key { leg with closed := true }) k = t.peerOf k := by
      simp only [peerOf, AList.lookup_insert_eq_ite]
      split_ifs with hKey
      · rw [hKey, hLeg]
        rfl
      · rfl
    split_ifs
    · exact parts_refl t
    · dsimp only
      split_ifs
      · refine .inr ⟨key, leg.peer, peerOf_eq_some.mpr ⟨leg, hLeg, rfl⟩, fun k => ?_⟩
        rw [peerOf_erase_erase, hMark]
      · exact .inl hMark

theorem parts_teardownPair (t : RoutingTable) (key : RouteKey) :
    Parts t (t.teardownPair key).2 := by
  unfold teardownPair
  split
  · exact parts_refl t
  · next leg hLeg =>
    exact .inr ⟨key, leg.peer, peerOf_eq_some.mpr ⟨leg, hLeg, rfl⟩, peerOf_erase_erase t _ _⟩

/-- No leg is new. -/
def Within (t' t : RoutingTable) : Prop :=
  ∀ key peer, t'.peerOf key = some peer → t.peerOf key = some peer

theorem Within.mem {t' : RoutingTable} (h : Within t' t) (hKey : key ∈ t') : key ∈ t := by
  obtain ⟨peer, hPeer⟩ := Option.isSome_iff_exists.mp (isSome_peerOf.mpr hKey)
  exact isSome_peerOf.mp (Option.isSome_of_eq_some (h key peer hPeer))

theorem within_teardownKeys (t : RoutingTable) (keys : List RouteKey) :
    Within (t.teardownKeys keys).2 t := by
  intro key peer hPeer
  obtain ⟨leg', hLeg', rfl⟩ := peerOf_eq_some.mp hPeer
  obtain ⟨leg, hLeg, hSame, -⟩ := shrinks_teardownKeys t keys key leg' hLeg'
  exact peerOf_eq_some.mpr ⟨leg, hLeg, hSame⟩

theorem Parts.within {t' : RoutingTable} (h : Parts t t') : Within t' t := by
  intro key peer hPeer
  rcases h with hSame | ⟨a, b, -, hGone⟩
  · rwa [hSame] at hPeer
  · rw [hGone] at hPeer
    split_ifs at hPeer
    exact hPeer

theorem Parts.paired {t' : RoutingTable} (h : Parts t t') (hPaired : Paired t.peerOf streamOf) :
    Paired t'.peerOf streamOf := by
  rcases h with hSame | ⟨a, b, hPair, hGone⟩
  · rwa [show t'.peerOf = t.peerOf from funext hSame]
  · exact hPaired.part hPair hGone

/-- The routes of a link, one after another. -/
theorem paired_teardownKeys (hPaired : Paired t.peerOf streamOf) (keys : List RouteKey) :
    Paired (t.teardownKeys keys).2.peerOf streamOf ∧
      (∀ key ∈ keys, (t.teardownKeys keys).2.peerOf key = none) ∧
      ∀ torn ∈ RelayServer.tornLegs t keys, t.peerOf torn.1 = some torn.2 := by
  induction keys generalizing t with
  | nil =>
    exact ⟨hPaired, List.forall_mem_nil _, List.forall_mem_nil _⟩
  | cons key keys ih =>
    have hParts := parts_teardownPair t key
    have hGone : (t.teardownPair key).2.peerOf key = none := by
      unfold teardownPair
      split
      · next hNone => rw [RoutingTable.peerOf, hNone]; rfl
      · rw [peerOf_erase_erase, if_pos (.inl rfl)]
    have hFirst : ∀ leg, (t.teardownPair key).1 = some leg → t.peerOf key = some leg.peer := by
      intro leg hLeg
      unfold teardownPair at hLeg
      split at hLeg
      · cases hLeg
      · next old hOld =>
        cases hLeg
        exact peerOf_eq_some.mpr ⟨leg, hOld, rfl⟩
    obtain ⟨hRest, hKeys, hTorn⟩ := ih (hParts.paired hPaired)
    have hTable : (t.teardownKeys (key :: keys)).2 =
        ((t.teardownPair key).2.teardownKeys keys).2 := by
      rw [teardownKeys]
      split <;> next hPair => rw [hPair]
    have hLegs : RelayServer.tornLegs t (key :: keys) =
        (t.teardownPair key).1.toList.map (fun leg => (key, leg.peer)) ++
          RelayServer.tornLegs (t.teardownPair key).2 keys := by
      rw [RelayServer.tornLegs]
      split <;> next hPair => rw [hPair]; rfl
    rw [hTable, hLegs]
    refine ⟨hRest, ?_, ?_⟩
    · intro k hk
      rcases List.mem_cons.mp hk with rfl | hk
      · by_contra hSome
        obtain ⟨peer, hPeer⟩ := Option.ne_none_iff_exists'.mp hSome
        rw [within_teardownKeys _ _ k peer hPeer] at hGone
        cases hGone
      · exact hKeys k hk
    · intro torn hMem
      rcases List.mem_append.mp hMem with hHead | hTail
      · obtain ⟨leg, hLeg, rfl⟩ := List.mem_map.mp hHead
        exact hFirst leg (Option.mem_toList.mp hLeg)
      · exact hParts.within _ _ (hTorn torn hTail)

theorem parts_dispatchStream (t : RoutingTable) (connectionId : Nat) (frame : Frame) :
    Parts t (dispatchStream t connectionId frame).1 := by
  unfold dispatchStream
  split
  · exact parts_refl t
  · exact parts_refl t
  · next streamId =>
    have hParts := parts_closeLeg t ⟨connectionId, streamId⟩
    unfold dispatchClose
    split <;> next hClose => rwa [hClose] at hParts
  · next streamId =>
    have hParts := parts_teardownPair t ⟨connectionId, streamId⟩
    unfold dispatchCloseStream
    split <;> next hPair => rwa [hPair] at hParts
  · exact parts_refl t

end RoutingTable

/-- The stream that a frame is for, as the link knows it. -/
def Parcel.key (parcel : Parcel) : RouteKey := ⟨parcel.connectionId, parcel.frame.streamId⟩

/-- What is dispatched is an answer, or goes to the other end. -/
theorem dispatchStream_parcel (t : RoutingTable) (connectionId : Nat) (frame : Frame) :
    ∀ parcel ∈ (dispatchStream t connectionId frame).2,
      RelayServer.isError parcel.frame = true ∨
        t.peerOf ⟨connectionId, frame.streamId⟩ = some parcel.key := by
  have hForward (key : RouteKey) (build : Nat → Frame)
      (hBuild : ∀ streamId, (build streamId).streamId = streamId) :
      RelayServer.isError (forwardRouted t key build).frame = true ∨
        t.peerOf key = some (forwardRouted t key build).key := by
    unfold forwardRouted RoutingTable.lookupLeg
    cases hLeg : t.lookup key with
    | none => exact .inl rfl
    | some leg =>
      cases hClosed : leg.closed with
      | true => simp only [hClosed]; exact .inl rfl
      | false =>
        refine .inr (RoutingTable.peerOf_eq_some.mpr ⟨leg, hLeg, ?_⟩)
        simp [hClosed, RouteLeg.parcel, Parcel.key, hBuild]
  intro parcel hParcel
  unfold dispatchStream at hParcel
  split at hParcel
  · cases hParcel
    exact hForward _ _ fun _ => rfl
  · cases hParcel
    exact hForward _ _ fun _ => rfl
  · next streamId =>
    unfold dispatchClose at hParcel
    split at hParcel
    · next leg _ hClose =>
      cases hParcel
      obtain ⟨⟨old, hOld, -, hPeer⟩, -⟩ :=
        RoutingTable.of_closeLeg_forward (congrArg Prod.fst hClose)
      exact .inr (RoutingTable.peerOf_eq_some.mpr ⟨old, hOld, hPeer.symm⟩)
    · cases hParcel
    · cases hParcel
      exact .inl rfl
  · next streamId =>
    unfold dispatchCloseStream RoutingTable.teardownPair at hParcel
    cases hLeg : t.lookup ⟨connectionId, streamId⟩ with
    | none =>
      simp only [hLeg] at hParcel
      cases hParcel
      exact .inl rfl
    | some leg =>
      simp only [hLeg] at hParcel
      cases hParcel
      exact .inr (RoutingTable.peerOf_eq_some.mpr ⟨leg, hLeg, rfl⟩)
  · cases hParcel

/-! ## What a step does to the routes -/

namespace Task

/-- The frames of streams that a task has still to send. -/
def hands : Task → List Forward
  | .sending forwards next => forwards.filter (fun forward => forward.stream.isSome) ++ next.hands
  | .publishing _ _ _ next => next.hands
  | _ => []

/-- Nodes open streams with odd ids and the relay with even ones. -/
def Numbered : Task → Prop
  | .opening _ streamId _ (.numbered relayStreamId) => streamId % 2 = 1 ∧ relayStreamId % 2 = 0
  | .opening _ streamId _ _ => streamId % 2 = 1
  | .sending _ next => next.Numbered
  | .publishing _ _ _ next => next.Numbered
  | _ => True

/-- The link whose routes a task has taken out, as the last of its work. -/
def torn : Task → Option Nat
  | .gone self => self.map RegisteredLink.connectionId
  | .sending _ next => next.torn
  | .publishing _ _ _ next => next.torn
  | _ => none

/-- An open that has been admitted and is not routed. -/
def admittedOpen : Task → Bool
  | .opening _ _ _ .resolved => false
  | .opening _ _ _ _ => true
  | .sending _ next => next.admittedOpen
  | .publishing _ _ _ next => next.admittedOpen
  | _ => false

/-- Nothing of this is new when a task goes on. -/
structure Follows (task task' : Task) : Prop where
  hands : task'.hands ⊆ task.hands
  numbered : task.Numbered → task'.Numbered
  torn : ∀ connectionId, task'.torn = some connectionId → task.torn = some connectionId
  admittedOpen : task'.admittedOpen = true → task.admittedOpen = true

theorem Follows.refl (task : Task) : task.Follows task :=
  ⟨List.Subset.refl _, id, fun _ => id, id⟩

theorem Follows.rest {task task' : Task} (hHands : task'.hands = []) (hNumbered : task'.Numbered)
    (hTorn : task'.torn = none) (hOpen : task'.admittedOpen = false) : task.Follows task' := by
  refine ⟨?_, fun _ => hNumbered, fun connectionId h => ?_, fun h => ?_⟩
  · rw [hHands]
    exact List.nil_subset _
  · rw [hTorn] at h
    cases h
  · rw [hOpen] at h
    cases h

end Task

namespace RelayServer

variable {config : ServerConfig} {s : RelayServer} {l : ServerLabel}

structure SameRoutes (s t : RelayServer) : Prop where
  routing : t.routing = s.routing := by rfl
  streamOf : t.streamOf = s.streamOf := by rfl
  opened : t.opened = s.opened := by rfl
  nextRelayStream : t.nextRelayStream = s.nextRelayStream := by rfl

/-- A step leaves the routes alone, or is one of five. -/
inductive RouteStep (config : ServerConfig) (s : RelayServer) (l : ServerLabel) :
    RelayServer → Prop
  | keep {t : RelayServer} : SameRoutes s t → (∀ i, (s.tasks i).Follows (t.tasks i)) →
      RouteStep config s l t
  | admitOpen {i : Nat} {self : RegisteredLink} {streamId : Nat} {target : RoutingTarget}
      {choice : Choice} : l = .next i choice →
      s.tasks i = .opening self streamId target .resolved →
      s.routing.streamCount < config.maxStreams ∧ choice.overThroughput = false →
      RouteStep config s l (s.put i (.opening self streamId target .admitted))
  | takeRelayStream {i : Nat} {self : RegisteredLink} {streamId : Nat} {target : RoutingTarget} :
      s.tasks i = .opening self streamId target .admitted →
      RouteStep config s l (s.takeRelayStream i self streamId target)
  | openRoute {i : Nat} {self : RegisteredLink} {streamId relayStreamId : Nat}
      {target : RoutingTarget} {choice : Choice} : l = .next i choice →
      s.tasks i = .opening self streamId target (.numbered relayStreamId) →
      RouteStep config s l (s.openRoute i self streamId target relayStreamId)
  | dispatchFrame {i : Nat} {self : RegisteredLink} (frame : Frame) :
      s.tasks i = .serving self → RouteStep config s l (s.dispatchFrame i self frame)
  | teardown {i : Nat} {self : RegisteredLink} (order : List RouteKey) :
      s.tasks i = .tearing self → RouteStep config s l (s.teardown i self order)

theorem RouteStep.refl (s : RelayServer) : RouteStep config s l s :=
  .keep {} fun _ => .refl _

variable {task : Task} {t : RelayServer} {i : Nat}

theorem RouteStep.put (hRoutes : SameRoutes s t) (hTasks : t.tasks = s.tasks)
    (hFollows : (s.tasks i).Follows task) :
    RouteStep config s l (t.put i task) := by
  refine .keep ⟨hRoutes.1, hRoutes.2, hRoutes.3, hRoutes.4⟩ fun j => ?_
  rw [tasks_put, hTasks]
  split_ifs with hj
  · exact hj ▸ hFollows
  · exact .refl _

theorem RouteStep.rest (hRoutes : SameRoutes s t) (hTasks : t.tasks = s.tasks)
    (hHands : task.hands = []) (hNumbered : task.Numbered) (hTorn : task.torn = none)
    (hOpen : task.admittedOpen = false) :
    RouteStep config s l (t.put i task) :=
  .put hRoutes hTasks (.rest hHands hNumbered hTorn hOpen)

theorem RouteStep.spawn (hRoutes : SameRoutes s t) (hTasks : t.tasks = s.tasks)
    (hHands : task.hands = []) (hNumbered : task.Numbered) (hTorn : task.torn = none)
    (hOpen : task.admittedOpen = false) :
    RouteStep config s l (t.spawn task) := by
  refine .keep ⟨hRoutes.1, hRoutes.2, hRoutes.3, hRoutes.4⟩ fun j => ?_
  rw [tasks_spawn, hTasks]
  split_ifs
  · exact .rest hHands hNumbered hTorn hOpen
  · exact .refl _

theorem routeStep_next (s : RelayServer) (i : Nat) (choice : Choice) (hTask : s.tasks i = task) :
    RouteStep config s (.next i choice) (s.next config i choice task) := by
  cases task with
  | absent | connected | serving | gone | returned => exact .refl s
  | checking nodeId =>
    simp only [next]
    split_ifs
    · exact .rest {} rfl rfl trivial rfl rfl
    · exact .rest {} rfl rfl trivial rfl rfl
  | admitted nodeId => exact .rest {} rfl rfl trivial rfl rfl
  | registered self previous =>
    cases previous with
    | none => exact .rest {} rfl rfl trivial rfl rfl
    | some serial => exact .rest {} rfl rfl trivial rfl rfl
  | touching self serial => exact .rest {} rfl rfl trivial rfl rfl
  | watching self target online inserted =>
    cases inserted with
    | false => exact .rest {} rfl rfl trivial rfl rfl
    | true => exact .rest {} rfl rfl trivial rfl rfl
  | opening self streamId target stage =>
    cases stage with
    | resolved =>
      simp only [next, admitOpen]
      split_ifs with hFull hOver
      · exact .rest {} rfl rfl trivial rfl rfl
      · exact .rest {} rfl rfl trivial rfl rfl
      · exact .admitOpen rfl hTask ⟨Nat.lt_of_not_ge hFull, Bool.eq_false_iff.mpr hOver⟩
    | admitted => exact .takeRelayStream hTask
    | numbered relayStreamId => exact .openRoute rfl hTask
  | sending forwards next =>
    cases forwards with
    | nil => exact .put {} rfl (hTask ▸ ⟨List.Subset.refl _, id, fun _ => id, id⟩)
    | cons forward forwards =>
      refine .put {} rfl (hTask ▸ ⟨?_, id, fun _ => id, id⟩)
      exact List.append_subset.mpr
        ⟨List.subset_append_of_subset_left _
          (List.filter_subset _ (List.subset_cons_self forward forwards)),
          List.subset_append_right _ _⟩
  | publishing nodeId online senders next =>
    simp only [RelayServer.next, publish]
    split <;> exact .put {} rfl (hTask ▸ ⟨List.Subset.refl _, id, fun _ => id, id⟩)
  | leaving self =>
    refine .rest {} rfl ?_ ?_ ?_ ?_
    · split_ifs <;> rfl
    · split_ifs <;> trivial
    · split_ifs <;> rfl
    · split_ifs <;> rfl
  | unwatching self => exact .rest {} rfl rfl trivial rfl rfl
  | tearing self => exact .teardown choice.order hTask
  | removing fingerprint =>
    simp only [next, retire]
    split <;> exact .rest {} rfl rfl trivial rfl rfl
  | revoked fingerprint => exact .rest {} rfl rfl trivial rfl rfl
  | sweeping evicted =>
    simp only [next, evictOne]
    split
    · exact .rest {} rfl rfl trivial rfl rfl
    · split_ifs
      · exact .rest {} rfl rfl trivial rfl rfl
      · exact .refl s

theorem routeStep_read (s : RelayServer) (i : Nat) (frame : Frame) (hTask : s.tasks i = task) :
    RouteStep config s l (s.read i frame task) := by
  unfold read
  split
  · unfold registerLink
    split
    · split_ifs <;> exact .rest {} rfl rfl trivial rfl rfl
    · exact .rest {} rfl rfl trivial rfl rfl
  · next self =>
    cases frame with
    | heartbeat =>
      simp only [serve]
      split
      · exact .rest {} rfl rfl trivial rfl rfl
      · exact .refl s
    | unregister =>
      refine .rest {} rfl ?_ ?_ ?_ ?_
      · split_ifs <;> rfl
      · split_ifs <;> trivial
      · split_ifs <;> rfl
      · split_ifs <;> rfl
    | adminRequest _ _ => exact .refl s
    | openStream streamId targetNodeId =>
      simp only [serve, handleOpenStream]
      split_ifs with hOdd
      · exact .rest {} rfl rfl trivial rfl rfl
      · split
        · exact .rest {} rfl rfl trivial rfl rfl
        · exact .rest {} rfl rfl (Nat.mod_two_ne_zero.mp hOdd) rfl rfl
    | data streamId payload => exact .dispatchFrame (.data streamId payload) hTask
    | window streamId credit => exact .dispatchFrame (.window streamId credit) hTask
    | close streamId => exact .dispatchFrame (.close streamId) hTask
    | closeStream streamId => exact .dispatchFrame (.closeStream streamId) hTask
    | _ => exact .rest {} rfl rfl trivial rfl rfl
  · exact .refl s

theorem routeStep (s : RelayServer) (l : ServerLabel) : RouteStep config s l (s.step config l) := by
  cases l with
  | accept fingerprint => exact .spawn {} rfl rfl trivial rfl rfl
  | read i frame => exact s.routeStep_read i frame rfl
  | quit i =>
    simp only [step, quit]
    split
    · exact .rest {} rfl rfl trivial rfl rfl
    · exact .rest {} rfl rfl trivial rfl rfl
    · exact .refl s
  | announce i labels =>
    simp only [step, announce]
    split
    · exact .keep {} fun _ => .refl _
    · exact .refl s
  | next i choice => exact s.routeStep_next i choice rfl
  | remove fingerprint unlisted =>
    refine .spawn {} rfl ?_ ?_ ?_ ?_
    · split_ifs <;> rfl
    · split_ifs <;> trivial
    · split_ifs <;> rfl
    · split_ifs <;> rfl
  | sweep now maxIdle => exact .spawn {} rfl rfl trivial rfl rfl

/-! ## Routes as pairs, along a run -/

/-- The keys of a stream that is about to be routed. -/
def newKeys (s : RelayServer) : ServerLabel → List RouteKey
  | .next i _ =>
      match s.tasks i with
      | .opening self streamId target (.numbered relayStreamId) =>
          [⟨self.connectionId, streamId⟩, ⟨target.connectionId, relayStreamId⟩]
      | _ => []
  | _ => []

structure Routed (s : RelayServer) : Prop where
  paired : Paired s.routing.peerOf s.streamOf
  numbers : ∀ key, (s.routing.peerOf key).isSome = true → s.streamOf key < s.opened
  even : ∀ serial, s.nextRelayStream serial % 2 = 0
  numbered : ∀ i, (s.tasks i).Numbered

theorem routed_start : Routed {} where
  paired := .none
  numbers := fun _ h => by cases h
  even := fun _ => Nat.mod_self 2
  numbered := fun _ => trivial

theorem Routed.numbered_of (h : s.Routed) (hTask : s.tasks i = task) :
    task.Numbered := hTask ▸ h.numbered i

theorem Routed.parts (h : s.Routed) {routing : RoutingTable}
    (hParts : Paired routing.peerOf s.streamOf) (hFewer : routing.Within s.routing)
    (hNumbered : task.Numbered) : ((s.setRouting routing).put i task).Routed where
  paired := hParts
  numbers := fun key hKey => h.numbers key
    (RoutingTable.isSome_peerOf.mpr (hFewer.mem (RoutingTable.isSome_peerOf.mp hKey)))
  even := h.even
  numbered := forall_put (s := s.setRouting routing) hNumbered h.numbered

theorem Routed.openRoute (h : s.Routed) {self : RegisteredLink} {streamId relayStreamId : Nat}
    {target : RoutingTarget}
    (hTask : s.tasks i = .opening self streamId target (.numbered relayStreamId))
    (hSource : ⟨self.connectionId, streamId⟩ ∉ s.routing)
    (hPeer : ⟨target.connectionId, relayStreamId⟩ ∉ s.routing) :
    (s.openRoute i self streamId target relayStreamId).Routed := by
  have hNone {key : RouteKey} (hKey : key ∉ s.routing) : s.routing.peerOf key = none := by
    rw [← Option.not_isSome_iff_eq_none, RoutingTable.isSome_peerOf]
    exact hKey
  have hOdd : streamId % 2 = 1 ∧ relayStreamId % 2 = 0 := h.numbered_of hTask
  have hNe : (⟨self.connectionId, streamId⟩ : RouteKey) ≠ ⟨target.connectionId, relayStreamId⟩ := by
    intro hSame
    have hIds := congrArg RouteKey.streamId hSame
    dsimp only at hIds
    omega
  refine ⟨h.paired.join (hNone hSource) (hNone hPeer) hNe h.numbers
    (RoutingTable.peerOf_openRoute _ _ _), fun key hKey => ?_, h.even,
    forall_put (P := Task.Numbered) trivial h.numbered⟩
  change Function.update (Function.update s.streamOf _ _) _ _ key < s.opened + 1
  change ((s.routing.openRoute _ _).peerOf key).isSome = true at hKey
  rw [RoutingTable.peerOf_openRoute] at hKey
  simp only [Function.update_apply]
  split_ifs at hKey ⊢
  · exact Nat.lt_succ_self _
  · exact Nat.lt_succ_self _
  · exact Nat.lt_succ_of_lt (h.numbers key hKey)

theorem Routed.routeStep (h : s.Routed) (hStep : RouteStep config s l t)
    (hFree : ∀ key ∈ s.newKeys l, key ∉ s.routing) : t.Routed := by
  cases hStep with
  | keep hRoutes hFollows =>
    refine ⟨?_, ?_, ?_, fun i => (hFollows i).numbered (h.numbered i)⟩
    · rw [hRoutes.routing, hRoutes.streamOf]
      exact h.paired
    · rw [hRoutes.routing, hRoutes.streamOf, hRoutes.opened]
      exact h.numbers
    · rw [hRoutes.nextRelayStream]
      exact h.even
  | @admitOpen i self streamId target _ hLabel hTask _ =>
    have hOdd : streamId % 2 = 1 := h.numbered_of hTask
    exact ⟨h.paired, h.numbers, h.even, forall_put (P := Task.Numbered) hOdd h.numbered⟩
  | takeRelayStream hTask =>
    refine ⟨h.paired, h.numbers, fun serial => ?_, forall_put (P := Task.Numbered) ?_ h.numbered⟩
    · simp only [RelayServer.takeRelayStream, put, Function.update_apply]
      have hEven := h.even serial
      split_ifs with hSerial
      · subst hSerial
        omega
      · exact hEven
    · exact ⟨h.numbered_of hTask, h.even _⟩
  | openRoute hLabel hTask =>
    subst hLabel
    simp only [newKeys, hTask] at hFree
    exact h.openRoute hTask (hFree _ (by simp)) (hFree _ (by simp))
  | @dispatchFrame i self frame hTask =>
    have hParts := RoutingTable.parts_dispatchStream s.routing self.connectionId frame
    exact h.parts (hParts.paired h.paired) hParts.within trivial
  | teardown order hTask =>
    exact h.parts (RoutingTable.paired_teardownKeys h.paired _).1
      (RoutingTable.within_teardownKeys _ _) trivial

/-! ## Frames in hand -/

/-- If the key of a frame is routed, then it is for the stream that the frame is about. -/
def Addressed (s : RelayServer) (forward : Forward) : Prop :=
  ∀ n, forward.stream = some n → forward.parcel.key ∈ s.routing →
    s.streamOf forward.parcel.key = n

/-- No frame is about to get into another stream. -/
def InHand (s : RelayServer) : Prop :=
  ∀ i, ∀ forward ∈ (s.tasks i).hands, s.Addressed forward

theorem InHand.put (h : ∀ j, ∀ forward ∈ (t.tasks j).hands, t.Addressed forward)
    (hTask : ∀ forward ∈ task.hands, t.Addressed forward) : (t.put i task).InHand :=
  forall_put (P := fun task => ∀ forward ∈ task.hands, t.Addressed forward) hTask h

/-- Routes go, and the streams of frames in hand with them. -/
theorem InHand.parts (h : s.InHand) {routing : RoutingTable} (hFewer : routing.Within s.routing)
    (hTask : ∀ forward ∈ task.hands, s.Addressed forward) :
    ((s.setRouting routing).put i task).InHand := by
  have hKept (forward : Forward) (hForward : s.Addressed forward) :
      (s.setRouting routing).Addressed forward := by
    intro n hn hKey
    exact hForward n hn (hFewer.mem hKey)
  exact .put (fun j forward hMem => hKept forward (h j forward hMem))
    fun forward hMem => hKept forward (hTask forward hMem)

theorem addressed_peer (h : s.Routed) {key : RouteKey} {parcel : Parcel}
    (hPeer : s.routing.peerOf key = some parcel.key) :
    s.Addressed { parcel, stream := some (s.streamOf key) } := by
  intro n hn _
  cases hn
  exact h.paired.same hPeer

theorem InHand.openRoute (h : s.InHand) {self : RegisteredLink}
    {streamId relayStreamId : Nat} {target : RoutingTarget}
    (hUnheld : ∀ j, ∀ forward ∈ (s.tasks j).hands,
      forward.parcel.key ≠ ⟨self.connectionId, streamId⟩ ∧
        forward.parcel.key ≠ ⟨target.connectionId, relayStreamId⟩) :
    (s.openRoute i self streamId target relayStreamId).InHand := by
  refine .put (fun j forward hMem n hn hKey => ?_) fun forward hMem n hn _ => ?_
  · obtain ⟨hSource, hPeer⟩ := hUnheld j forward hMem
    change forward.parcel.key ∈ s.routing.openRoute _ _ at hKey
    rw [← RoutingTable.isSome_peerOf, RoutingTable.peerOf_openRoute, if_neg hPeer,
      if_neg hSource, RoutingTable.isSome_peerOf] at hKey
    change Function.update (Function.update s.streamOf _ _) _ _ forward.parcel.key = n
    rw [Function.update_of_ne hPeer, Function.update_of_ne hSource]
    exact h j forward hMem n hn hKey
  · obtain rfl : forward = _ := List.mem_singleton.mp hMem
    cases hn
    exact Function.update_self _ _ _

theorem InHand.routeStep (h : s.InHand) (hRouted : s.Routed) (hStep : RouteStep config s l t)
    (hUnheld : ∀ key ∈ s.newKeys l, ∀ j, ∀ forward ∈ (s.tasks j).hands,
      forward.parcel.key ≠ key) : t.InHand := by
  cases hStep with
  | keep hRoutes hFollows =>
    intro i forward hMem
    simp only [Addressed, hRoutes.routing, hRoutes.streamOf]
    exact h i forward ((hFollows i).hands hMem)
  | admitOpen hLabel hTask _ => exact .put h fun _ hMem => by cases hMem
  | takeRelayStream hTask => exact .put h fun _ hMem => by cases hMem
  | openRoute hLabel hTask =>
    subst hLabel
    simp only [newKeys, hTask] at hUnheld
    exact h.openRoute fun j forward hMem =>
      ⟨hUnheld _ (by simp) j forward hMem, hUnheld _ (by simp) j forward hMem⟩
  | dispatchFrame frame hTask =>
    refine h.parts (RoutingTable.parts_dispatchStream s.routing _ frame).within ?_
    intro forward hMem
    simp only [Task.hands, List.append_nil, List.mem_filter, List.mem_map,
      Option.mem_toList] at hMem
    obtain ⟨⟨parcel, hParcel, rfl⟩, hStream⟩ := hMem
    rcases dispatchStream_parcel _ _ _ parcel hParcel with hError | hPeer
    · simp [hError] at hStream
    · split_ifs at hStream ⊢
      · cases hStream
      · exact addressed_peer hRouted hPeer
  | @teardown i self order hTask =>
    obtain ⟨-, -, hTorn⟩ := RoutingTable.paired_teardownKeys hRouted.paired
      (s.keysInOrder self order)
    refine h.parts (RoutingTable.within_teardownKeys _ _) fun forward hMem => ?_
    simp only [Task.hands, List.append_nil, List.mem_filter, List.mem_map] at hMem
    obtain ⟨⟨torn, hMem, rfl⟩, -⟩ := hMem
    exact addressed_peer hRouted (hTorn torn hMem)

/-! ## The routes of a relay -/

/-- Every leg has its mirror, legs and streams are counted right, and frames keep to theirs. -/
def RoutesPaired (s : RelayServer) : Prop :=
  (∀ key leg, s.routing.lookup key = some leg → s.routing.peerOf leg.peer = some key) ∧
    s.routing.keys.length % 2 = 0 ∧
    s.routing.streamCount = (s.routing.keys.map s.streamOf).toFinset.card ∧
    s.InHand

theorem Routed.routesPaired (h : s.Routed) (hHands : s.InHand) : s.RoutesPaired := by
  have hCard : s.routing.keys.length = 2 * (s.routing.keys.map s.streamOf).toFinset.card :=
    h.paired.card s.routing.nodupKeys fun key => by
      rw [RoutingTable.isSome_peerOf, AList.mem_keys]
  refine ⟨fun key leg hLeg => ?_, by omega, ?_, hHands⟩
  · exact h.paired.back (RoutingTable.peerOf_eq_some.mpr ⟨leg, hLeg, rfl⟩)
  · rw [RoutingTable.streamCount]
    omega

/-- A new stream gets keys that are not routed and that no frame in hand is for. -/
def freshRoute (s : RelayServer) (l : ServerLabel) : Bool :=
  (s.newKeys l).all fun key =>
    decide (key ∉ s.routing) &&
      s.allTasks fun task => task.hands.all fun forward => forward.parcel.key ≠ key

theorem of_freshRoute (hWf : s.Wf) (hFresh : s.freshRoute l = true) :
    (∀ key ∈ s.newKeys l, key ∉ s.routing) ∧
      ∀ key ∈ s.newKeys l, ∀ j, ∀ forward ∈ (s.tasks j).hands, forward.parcel.key ≠ key := by
  simp only [freshRoute, List.all_eq_true, Bool.and_eq_true, decide_eq_true_eq] at hFresh
  refine ⟨fun key hKey => (hFresh key hKey).1, fun key hKey j forward hMem => ?_⟩
  have hAll := (hWf.allTasks rfl).mp (hFresh key hKey).2 j
  simp only [List.all_eq_true, decide_eq_true_eq] at hAll
  exact hAll forward hMem

theorem routes_stay_paired (config : ServerConfig) (labels : List ServerLabel)
    (hFresh : EachStep (step config) (fun s l => s.freshRoute l = true) {} labels) :
    Always (step config) RoutesPaired {} labels := by
  refine Always.of_eachStep (I := fun s : RelayServer => s.Wf ∧ s.Routed ∧ s.InHand) ?_ ?_
    labels {} hFresh ⟨wf_start, routed_start, fun _ _ hMem => by cases hMem⟩
  · rintro s l ⟨hWf, hRouted, hHands⟩ hAllowed
    obtain ⟨hFree, hUnheld⟩ := of_freshRoute hWf hAllowed
    have hStep : RouteStep config s l (s.step config l) := s.routeStep l
    exact ⟨hWf.step l, hRouted.routeStep hStep hFree, hHands.routeStep hRouted hStep hUnheld⟩
  · rintro s ⟨-, hRouted, hHands⟩
    exact hRouted.routesPaired hHands

theorem routes_paired_after_open :
    Always (step smallConfig) RoutesPaired {}
      (joins 0 aNode ++ joins 1 bNode ++ opens 0 1 bNode.1) :=
  routes_stay_paired smallConfig _ (by decide +kernel)

/-- A node opens its stream 1 a second time: the relay gives the peer a new id, and the leg of
the first one leads into the second stream. -/
theorem reopened_stream_is_crossed :
    ¬ RoutesPaired (run (step smallConfig) {}
      (joins 0 aNode ++ joins 1 bNode ++ opens 0 1 bNode.1 ++ opens 0 1 bNode.1)) := by
  intro h
  have hMirror := h.1 ⟨1, 2⟩ { peer := ⟨0, 1⟩ } (by decide +kernel)
  revert hMirror
  decide +kernel

end RelayServer

end WaitAgent.Relay
