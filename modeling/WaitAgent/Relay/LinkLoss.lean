import WaitAgent.Relay.Pairing

/-!
# The routes of a link that has ended

The epilogue of a link takes out its routes once.  A node that has looked the link up before can
route a stream to it afterwards, and nothing takes that stream out again.  If no stream is
routed to or from a link whose routes are gone, then no route outlives its link.
-/

namespace WaitAgent.Relay

open Verified Mux

/-- An open that has looked this link up. -/
def Task.opensTo (connectionId : Nat) : Task → Bool
  | .opening _ _ target _ => target.connectionId = connectionId
  | _ => false

namespace RelayServer

variable {config : ServerConfig} {s : RelayServer} {l : ServerLabel}

/-- Where the routes of a link have been taken out, there are none. -/
def Cleared (s : RelayServer) : Prop :=
  ∀ i connectionId, (s.tasks i).torn = some connectionId →
    ∀ key ∈ s.routing, key.connectionId ≠ connectionId

theorem Cleared.put {t : RelayServer} {i : Nat} {task : Task} (hTorn : task.torn = none)
    (h : t.Cleared) : (t.put i task).Cleared := by
  refine forall_put (P := fun task => ∀ connectionId, task.torn = some connectionId →
    ∀ key ∈ t.routing, key.connectionId ≠ connectionId) (fun connectionId hTask => ?_) h
  rw [hTorn] at hTask
  cases hTask

theorem Cleared.within (h : s.Cleared) {routing : RoutingTable}
    (hFewer : routing.Within s.routing) : (s.setRouting routing).Cleared :=
  fun i connectionId hTask key hKey => h i connectionId hTask key (hFewer.mem hKey)

theorem Cleared.teardown (h : s.Cleared) (hRouted : s.Routed) (i : Nat) (self : RegisteredLink)
    (order : List RouteKey) : (s.teardown i self order).Cleared := by
  have hFewer := RoutingTable.within_teardownKeys s.routing (s.keysInOrder self order)
  obtain ⟨-, hGone, -⟩ :=
    RoutingTable.paired_teardownKeys hRouted.paired (s.keysInOrder self order)
  refine forall_put (P := fun task => ∀ connectionId, task.torn = some connectionId →
    ∀ key ∈ (s.routing.teardownKeys (s.keysInOrder self order)).2,
      key.connectionId ≠ connectionId) ?_ (h.within hFewer)
  intro connectionId hTask key hKey hLink
  obtain rfl : self.connectionId = connectionId := Option.some.inj hTask
  have hNone := hGone key (mem_keysInOrder order (hFewer.mem hKey) hLink)
  rw [← RoutingTable.isSome_peerOf, hNone] at hKey
  cases hKey

theorem Cleared.openRoute (h : s.Cleared) {i : Nat} {self : RegisteredLink}
    {streamId relayStreamId : Nat} {target : RoutingTarget}
    (hLive : ∀ j, (s.tasks j).torn ≠ some self.connectionId ∧
      (s.tasks j).torn ≠ some target.connectionId) :
    (s.openRoute i self streamId target relayStreamId).Cleared := by
  refine .put rfl fun j connectionId hTask key hKey hLink => ?_
  subst hLink
  change key ∈ s.routing.openRoute _ _ at hKey
  rw [← RoutingTable.isSome_peerOf, RoutingTable.peerOf_openRoute] at hKey
  split_ifs at hKey with hPeer hSource
  · subst hPeer
    exact (hLive j).2 hTask
  · subst hSource
    exact (hLive j).1 hTask
  · exact h j _ hTask key (RoutingTable.isSome_peerOf.mp hKey) rfl

theorem Cleared.routeStep (h : s.Cleared) (hRouted : s.Routed) {t : RelayServer}
    (hStep : RouteStep config s l t)
    (hLive : ∀ key ∈ s.newKeys l, ∀ j, (s.tasks j).torn ≠ some key.connectionId) :
    t.Cleared := by
  cases hStep with
  | keep hRoutes hFollows =>
    intro i connectionId hTask
    rw [hRoutes.routing]
    exact h i connectionId ((hFollows i).torn connectionId hTask)
  | admitOpen hLabel hTask _ => exact .put rfl h
  | takeRelayStream hTask => exact .put rfl h
  | openRoute hLabel hTask =>
    subst hLabel
    simp only [newKeys, hTask, List.forall_mem_cons] at hLive
    exact h.openRoute fun j => ⟨hLive.1 j, hLive.2.1 j⟩
  | @dispatchFrame i self frame hTask =>
    have hParts := RoutingTable.parts_dispatchStream s.routing self.connectionId frame
    exact .put rfl (h.within hParts.within)
  | teardown order hTask => exact h.teardown hRouted _ _ order

/-! ## Links that have ended -/

/-- Once the epilogue of a link is over, and so is every open that has looked it up, no leg is
of that link or leads to it. -/
def NoLostRoutes (s : RelayServer) : Prop :=
  ∀ i self, s.tasks i = .gone (some self) →
    (∀ j, (s.tasks j).opensTo self.connectionId = false) →
    ∀ key leg, s.routing.lookup key = some leg →
      key.connectionId ≠ self.connectionId ∧ leg.peer.connectionId ≠ self.connectionId

theorem Cleared.noLostRoutes (h : s.Cleared) (hRouted : s.Routed) : s.NoLostRoutes := by
  intro i self hTask _ key leg hLeg
  have hTorn : (s.tasks i).torn = some self.connectionId := by rw [hTask]; rfl
  have hPeer : s.routing.peerOf leg.peer = some key :=
    hRouted.paired.back (RoutingTable.peerOf_eq_some.mpr ⟨leg, hLeg, rfl⟩)
  refine ⟨h i _ hTorn key (AList.mem_iff_lookup.mpr ⟨leg, hLeg⟩), h i _ hTorn leg.peer ?_⟩
  exact RoutingTable.isSome_peerOf.mp (Option.isSome_of_eq_some hPeer)

/-- A stream is routed under new keys, and between links whose routes have not been taken out. -/
def liveRoute (s : RelayServer) (l : ServerLabel) : Bool :=
  (s.newKeys l).all fun key =>
    decide (key ∉ s.routing) && s.allTasks fun task => task.torn ≠ some key.connectionId

theorem of_liveRoute (hWf : s.Wf) (hLive : s.liveRoute l = true) :
    (∀ key ∈ s.newKeys l, key ∉ s.routing) ∧
      ∀ key ∈ s.newKeys l, ∀ j, (s.tasks j).torn ≠ some key.connectionId := by
  simp only [liveRoute, List.all_eq_true, Bool.and_eq_true, decide_eq_true_eq] at hLive
  refine ⟨fun key hKey => (hLive key hKey).1, fun key hKey j => ?_⟩
  exact of_decide_eq_true ((hWf.allTasks rfl).mp (hLive key hKey).2 j)

theorem no_route_outlives_its_link (config : ServerConfig) (labels : List ServerLabel)
    (hLive : EachStep (step config) (fun s l => s.liveRoute l = true) {} labels) :
    Always (step config) NoLostRoutes {} labels := by
  refine Always.of_eachStep (I := fun s : RelayServer => s.Wf ∧ s.Routed ∧ s.Cleared) ?_ ?_
    labels {} hLive ⟨wf_start, routed_start, fun _ _ hTask => by cases hTask⟩
  · rintro s l ⟨hWf, hRouted, hCleared⟩ hAllowed
    obtain ⟨hFree, hTorn⟩ := of_liveRoute hWf hAllowed
    have hStep : RouteStep config s l (s.step config l) := s.routeStep l
    exact ⟨hWf.step l, hRouted.routeStep hStep hFree, hCleared.routeStep hRouted hStep hTorn⟩
  · rintro s ⟨-, hRouted, hCleared⟩
    exact hCleared.noLostRoutes hRouted

/-- A link ends: its entry goes, the watchers are told, its interests and its routes go. -/
def leaves (i : Nat) : List ServerLabel := .quit i :: List.replicate 7 (.next i {})

theorem routes_go_with_link :
    Always (step smallConfig) NoLostRoutes {}
      (joins 0 aNode ++ joins 1 bNode ++ opens 0 1 bNode.1 ++ leaves 1) :=
  no_route_outlives_its_link smallConfig _ (by decide +kernel)

/-- The peer is looked up, it ends, and then the stream is routed. -/
def opensTooLate : List ServerLabel :=
  joins 0 aNode ++ joins 1 bNode ++ [.read 0 (.openStream 1 bNode.1)] ++ leaves 1 ++
    List.replicate 5 (.next 0 {})

theorem late_open_is_lost : ¬ NoLostRoutes (run (step smallConfig) {} opensTooLate) := by
  intro h
  have hOpens : (run (step smallConfig) {} opensTooLate).allTasks (fun task => !task.opensTo 1) =
      true := by decide +kernel
  have hDone (j : Nat) := Bool.not_eq_true' _ |>.mp (((wf_run _ _).allTasks rfl).mp hOpens j)
  have hLost := h 1 ⟨bNode.1, 1⟩ (by decide +kernel) hDone ⟨1, 2⟩ { peer := ⟨0, 1⟩ }
    (by decide +kernel)
  exact hLost.1 rfl

end RelayServer

end WaitAgent.Relay
