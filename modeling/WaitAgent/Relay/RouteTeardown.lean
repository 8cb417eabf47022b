import WaitAgent.Relay.Routing

/-!
# The routes of a link that goes

`teardown_connection` collects the keys of the link and takes the routes away one after
another.  The keys of one stream may both be among them: then the second finds nothing.  In a
table where every leg has its mirror, exactly the streams with an end at the link go, and
each is reported once.
-/

namespace WaitAgent.Relay.RoutingTable

open Verified Mux

variable {t : RoutingTable} {key : RouteKey} {leg : RouteLeg}

/-- The peer of every leg is in the table and points back. -/
def Consistent (t : RoutingTable) : Prop :=
  ∀ key leg, t.lookup key = some leg →
    ∃ mirror, t.lookup leg.peer = some mirror ∧ mirror.peer = key

/-- Legs with one peer are one leg. -/
theorem Consistent.eq_of_peer (h : t.Consistent) {key' : RouteKey} {leg' : RouteLeg}
    (hLeg : t.lookup key = some leg) (hLeg' : t.lookup key' = some leg')
    (hPeer : leg.peer = leg'.peer) : key = key' := by
  obtain ⟨mirror, hMirror, rfl⟩ := h key leg hLeg
  obtain ⟨mirror', hMirror', rfl⟩ := h key' leg' hLeg'
  rw [hPeer, hMirror'] at hMirror
  rw [Option.some.inj hMirror]

/-- A leg whose peer is another leg is the peer of that leg. -/
theorem Consistent.peer_eq (h : t.Consistent) {key' : RouteKey} {leg' : RouteLeg}
    (hLeg : t.lookup key = some leg) (hLeg' : t.lookup key' = some leg')
    (hPeer : leg.peer = key') : leg'.peer = key := by
  obtain ⟨mirror, hMirror, hBack⟩ := h key leg hLeg
  rw [hPeer, hLeg'] at hMirror
  rw [Option.some.inj hMirror, hBack]

/-! ## One route -/

theorem filter_eq_filter {o : Option RouteLeg} {p q : RouteLeg → Bool}
    (h : ∀ leg, o = some leg → p leg = q leg) : o.filter p = o.filter q := by
  cases o with
  | none => rfl
  | some leg => rw [Option.filter_some, Option.filter_some, h leg rfl]

theorem lookup_erase_pair (t : RoutingTable) (a b key : RouteKey) :
    ((t.erase a).erase b).lookup key = if key = a ∨ key = b then none else t.lookup key := by
  rw [AList.lookup_erase_eq_ite, AList.lookup_erase_eq_ite]
  by_cases hb : key = b <;> by_cases ha : key = a <;> simp [ha, hb]

/-- A leg of another stream has no end in common with the stream that goes. -/
theorem Consistent.apart (h : t.Consistent) {first : RouteKey} {torn : RouteLeg}
    (hTorn : t.lookup first = some torn) (hLeg : t.lookup key = some leg)
    (hKey : ¬(key = first ∨ key = torn.peer)) : leg.peer ≠ first ∧ leg.peer ≠ torn.peer := by
  constructor
  · intro hFirst
    exact hKey (.inr (h.peer_eq hLeg hTorn hFirst).symm)
  · intro hPeer
    exact hKey (.inl (h.eq_of_peer hLeg hTorn hPeer))

theorem Consistent.erase_pair (h : t.Consistent) {first : RouteKey} {torn : RouteLeg}
    (hTorn : t.lookup first = some torn) :
    Consistent ((t.erase first).erase torn.peer) := by
  intro key leg hLeg
  rw [lookup_erase_pair] at hLeg
  split_ifs at hLeg with hKey
  obtain ⟨mirror, hMirror, hBack⟩ := h key leg hLeg
  have hApart := h.apart hTorn hLeg hKey
  refine ⟨mirror, ?_, hBack⟩
  rw [lookup_erase_pair, if_neg (not_or.mpr hApart), hMirror]

/-! ## One route after another -/

theorem teardownKeys_of_none {first : RouteKey} (h : t.lookup first = none)
    (keys : List RouteKey) : t.teardownKeys (first :: keys) = t.teardownKeys keys := by
  simp [teardownKeys, teardownPair, h]

theorem teardownKeys_of_some {first : RouteKey} {torn : RouteLeg} (h : t.lookup first = some torn)
    (keys : List RouteKey) :
    t.teardownKeys (first :: keys) =
      (torn.peer :: (teardownKeys ((t.erase first).erase torn.peer) keys).1,
        (teardownKeys ((t.erase first).erase torn.peer) keys).2) := by
  simp [teardownKeys, teardownPair, h]

/-- What is reported is the other end of a leg that was asked for. -/
theorem mem_teardownKeys {keys : List RouteKey} {peer : RouteKey}
    (h : peer ∈ (t.teardownKeys keys).1) :
    ∃ key ∈ keys, ∃ leg, t.lookup key = some leg ∧ leg.peer = peer := by
  induction keys generalizing t with
  | nil => cases h
  | cons first keys ih =>
    cases hFirst : t.lookup first with
    | none =>
      rw [teardownKeys_of_none hFirst] at h
      obtain ⟨key, hKey, hLeg⟩ := ih h
      exact ⟨key, List.mem_cons_of_mem _ hKey, hLeg⟩
    | some torn =>
      rw [teardownKeys_of_some hFirst] at h
      rcases List.mem_cons.mp h with rfl | hRest
      · exact ⟨first, List.mem_cons_self, torn, hFirst, rfl⟩
      · obtain ⟨key, hKey, leg, hLeg, hPeer⟩ := ih hRest
        rw [lookup_erase_pair] at hLeg
        split_ifs at hLeg
        exact ⟨key, List.mem_cons_of_mem _ hKey, leg, hLeg, hPeer⟩

theorem Consistent.teardownKeys (h : t.Consistent) (keys : List RouteKey) :
    (t.teardownKeys keys).2.Consistent := by
  induction keys generalizing t with
  | nil => exact h
  | cons first keys ih =>
    cases hFirst : t.lookup first with
    | none =>
      rw [teardownKeys_of_none hFirst]
      exact ih h
    | some torn =>
      rw [teardownKeys_of_some hFirst]
      exact ih (h.erase_pair hFirst)

/-- A leg stays as it is, unless it or its peer was asked for. -/
theorem Consistent.lookup_teardownKeys (h : t.Consistent) (keys : List RouteKey)
    (key : RouteKey) :
    (t.teardownKeys keys).2.lookup key =
      (t.lookup key).filter fun leg => key ∉ keys ∧ leg.peer ∉ keys := by
  induction keys generalizing t with
  | nil => cases hLeg : t.lookup key <;> simp [RoutingTable.teardownKeys, hLeg, Option.filter_some]
  | cons first keys ih =>
    cases hFirst : t.lookup first with
    | none =>
      rw [teardownKeys_of_none hFirst, ih h]
      refine filter_eq_filter fun leg hLeg => ?_
      -- neither the leg nor its mirror is the key that is not there
      obtain ⟨mirror, hMirror, -⟩ := h key leg hLeg
      have hKey : key ≠ first := by
        rintro rfl
        rw [hFirst] at hLeg
        cases hLeg
      have hPeer : leg.peer ≠ first := by
        rintro rfl
        rw [hFirst] at hMirror
        cases hMirror
      simp [hKey, hPeer]
    | some torn =>
      rw [teardownKeys_of_some hFirst, ih (h.erase_pair hFirst), lookup_erase_pair]
      split_ifs with hGone
      · cases hLeg : t.lookup key with
        | none => rfl
        | some leg =>
          have hAsked : key = first ∨ leg.peer = first := by
            refine hGone.imp id fun hKey => ?_
            exact h.peer_eq hFirst hLeg hKey.symm
          rcases hAsked with rfl | hAsked
          · simp
          · simp [hAsked, Option.filter_some]
      · refine filter_eq_filter fun leg hLeg => ?_
        have hApart := h.apart hFirst hLeg hGone
        simp [(not_or.mp hGone).1, hApart.1]

/-- Each stream with an end that was asked for is reported once, and no other. -/
theorem Consistent.count_teardownKeys (h : t.Consistent) (keys : List RouteKey)
    (hLeg : t.lookup key = some leg) :
    (t.teardownKeys keys).1.countP (fun peer => peer = key ∨ peer = leg.peer) =
      if key ∈ keys ∨ leg.peer ∈ keys then 1 else 0 := by
  induction keys generalizing t with
  | nil => simp [RoutingTable.teardownKeys]
  | cons first keys ih =>
    cases hFirst : t.lookup first with
    | none =>
      have hKey : key ≠ first := by
        rintro rfl
        rw [hFirst] at hLeg
        cases hLeg
      have hPeer : leg.peer ≠ first := by
        rintro rfl
        obtain ⟨mirror, hMirror, -⟩ := h key leg hLeg
        rw [hFirst] at hMirror
        cases hMirror
      rw [teardownKeys_of_none hFirst, ih h hLeg]
      simp [hKey, hPeer]
    | some torn =>
      rw [teardownKeys_of_some hFirst]
      by_cases hGone : key = first ∨ key = torn.peer
      · -- this stream goes now, and nothing of it is left for the rest of the keys
        have hSame :
            key = first ∧ leg.peer = torn.peer ∨ key = torn.peer ∧ leg.peer = first := by
          rcases hGone with rfl | hKey
          · rw [hFirst] at hLeg
            rw [Option.some.inj hLeg]
            exact .inl ⟨rfl, rfl⟩
          · exact .inr ⟨hKey, h.peer_eq hFirst hLeg hKey.symm⟩
        have hRest : (RoutingTable.teardownKeys ((t.erase first).erase torn.peer) keys).1.countP
            (fun peer => peer = key ∨ peer = leg.peer) = 0 := by
          rw [List.countP_eq_zero]
          intro peer hPeer
          obtain ⟨other, -, otherLeg, hOther, rfl⟩ := mem_teardownKeys hPeer
          rw [lookup_erase_pair] at hOther
          split_ifs at hOther with hKept
          have hApart := h.apart hFirst hOther hKept
          rcases hSame with ⟨hKey, hPeer⟩ | ⟨hKey, hPeer⟩
          · simp [hKey, hPeer, hApart]
          · simp [hKey, hPeer, hApart]
        rw [List.countP_cons, hRest]
        rcases hSame with ⟨hKey, hPeer⟩ | ⟨hKey, hPeer⟩
        · simp [hKey, hPeer]
        · simp [hKey, hPeer]
      · have hApart := h.apart hFirst hLeg hGone
        have hKept : ((t.erase first).erase torn.peer).lookup key = some leg := by
          rw [lookup_erase_pair, if_neg hGone, hLeg]
        rw [List.countP_cons, ih (h.erase_pair hFirst) hKept]
        have hGone := not_or.mp hGone
        simp [hGone.1, Ne.symm hGone.2, hApart.1, Ne.symm hApart.2]

/-! ## A link -/

theorem mem_keysOf {connectionId : Nat} :
    key ∈ t.keysOf connectionId ↔ key ∈ t ∧ key.connectionId = connectionId := by
  rw [keysOf, List.mem_filter, AList.mem_keys, decide_eq_true_eq]

/-- The streams with an end at the link are gone, each is reported once, by an end that is
opposite to one at the link, and nothing else has changed. -/
structure TornDown (connectionId : Nat) (t : RoutingTable) (peers : List RouteKey)
    (t' : RoutingTable) : Prop where
  legs : ∀ key, t'.lookup key = (t.lookup key).filter fun leg =>
    key.connectionId ≠ connectionId ∧ leg.peer.connectionId ≠ connectionId
  consistent : t'.Consistent
  opposite : ∀ peer ∈ peers, ∃ key leg, key.connectionId = connectionId ∧
    t.lookup key = some leg ∧ leg.peer = peer
  once : ∀ key leg, t.lookup key = some leg →
    key.connectionId = connectionId ∨ leg.peer.connectionId = connectionId →
    peers.countP (fun peer => peer = key ∨ peer = leg.peer) = 1
  again : ∀ order, order.Perm (t'.keysOf connectionId) → (t'.teardownKeys order).1 = []

/-- `teardown_connection` for the keys of the link, in any order that the map has them in. -/
theorem teardown_connection_exact (t : RoutingTable) (connectionId : Nat)
    (order : List RouteKey) (hConsistent : t.Consistent)
    (hOrder : order.Perm (t.keysOf connectionId)) :
    TornDown connectionId t (t.teardownKeys order).1 (t.teardownKeys order).2 := by
  have hMem {key : RouteKey} : key ∈ order ↔ key ∈ t ∧ key.connectionId = connectionId :=
    hOrder.mem_iff.trans mem_keysOf
  have hIn {key : RouteKey} {leg : RouteLeg} (hLeg : t.lookup key = some leg) : key ∈ t :=
    AList.mem_iff_lookup.mpr ⟨leg, hLeg⟩
  have hAsked {key : RouteKey} {leg : RouteLeg} (hLeg : t.lookup key = some leg) :
      (key ∈ order ↔ key.connectionId = connectionId) ∧
        (leg.peer ∈ order ↔ leg.peer.connectionId = connectionId) := by
    obtain ⟨mirror, hMirror, -⟩ := hConsistent key leg hLeg
    exact ⟨hMem.trans (and_iff_right (hIn hLeg)), hMem.trans (and_iff_right (hIn hMirror))⟩
  have hLegs (key : RouteKey) : (t.teardownKeys order).2.lookup key = (t.lookup key).filter
      fun leg => key.connectionId ≠ connectionId ∧ leg.peer.connectionId ≠ connectionId := by
    rw [hConsistent.lookup_teardownKeys]
    refine filter_eq_filter fun leg hLeg => ?_
    simp only [(hAsked hLeg).1, (hAsked hLeg).2, ne_eq]
  refine ⟨hLegs, hConsistent.teardownKeys order, fun peer hPeer => ?_, fun key leg hLeg hEnd => ?_,
    fun order' hOrder' => ?_⟩
  · obtain ⟨key, hKey, leg, hLeg, rfl⟩ := mem_teardownKeys hPeer
    exact ⟨key, leg, (hMem.mp hKey).2, hLeg, rfl⟩
  · rw [hConsistent.count_teardownKeys order hLeg, if_pos]
    exact hEnd.imp (hAsked hLeg).1.mpr (hAsked hLeg).2.mpr
  · have hNone : (t.teardownKeys order).2.keysOf connectionId = [] := by
      rw [List.eq_nil_iff_forall_not_mem]
      intro key hKey
      obtain ⟨hIn', hLink⟩ := mem_keysOf.mp hKey
      obtain ⟨leg, hLeg⟩ := AList.mem_iff_lookup.mp hIn'
      rw [hLegs, Option.filter_eq_some_iff] at hLeg
      simp [hLink] at hLeg
    rw [hNone] at hOrder'
    rw [hOrder'.eq_nil]
    rfl

/-- A stream from link 1 to itself, one from link 1 to link 2, and one past link 1. -/
def loopTable : RoutingTable :=
  ((openRoute ∅ ⟨1, 1⟩ ⟨1, 2⟩).openRoute ⟨1, 3⟩ ⟨2, 2⟩).openRoute ⟨2, 1⟩ ⟨3, 2⟩

theorem loop_torn_down_exactly :
    TornDown 1 loopTable [⟨1, 1⟩, ⟨2, 2⟩] (openRoute ∅ ⟨2, 1⟩ ⟨3, 2⟩) := by
  have hConsistent : loopTable.Consistent := by
    have hAll : ∀ e ∈ loopTable.entries,
        (loopTable.lookup e.2.peer).map RouteLeg.peer = some e.1 := by decide +kernel
    intro key leg hLeg
    exact Option.map_eq_some_iff.mp (hAll ⟨key, leg⟩ (AList.lookup_eq_some_iff.mp hLeg))
  exact teardown_connection_exact loopTable 1 [⟨1, 2⟩, ⟨1, 1⟩, ⟨1, 3⟩] hConsistent
    (by decide +kernel)

end WaitAgent.Relay.RoutingTable
