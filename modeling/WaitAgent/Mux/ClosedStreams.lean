import Mathlib.Data.List.Perm.Subperm
import WaitAgent.Mux.Endpoint

/-!
# Streams closed on both sides

The entry of a stream goes when both of its legs are closed.  Only the reader task takes it
away, in the arm of `Close`; `poll_shutdown` does not.  So an entry stays behind when the
own leg is the last one to be closed.
-/

namespace WaitAgent.Mux

open Verified

/-- One of the two legs is still open. -/
def Handle.hasOpenLeg (h : Handle) : Bool :=
  !h.stream.finSent || !h.stream.peerFin

namespace Connection

/-- No entry is left of a stream that is closed on both sides, other than the one whose
`Close` the reader is busy with. -/
structure Cleared (c : Connection) : Prop where
  entries : ∀ streamId i h, c.table.lookup streamId = some i → c.handles[i]? = some h →
    h.stream.finSent = true → h.stream.peerFin = true → c.reader = .closing i
  count : (∀ i, c.reader ≠ .closing i) →
    c.table.keys.length ≤ (c.handles.filter Handle.hasOpenLeg).length

/-- The own leg of a stream is closed behind that of the peer: the step sets `fin_sent` of a
stream with an entry, and the reader is through with its `Close`. -/
def finishesLast (c : Connection) : EndLabel → Bool
  | .act (.call i .finish) =>
      match c.handles[i]? with
      | some h => h.call = .finishing && h.stream.peerFin && c.table.lookup h.id = some i &&
          c.reader ≠ .closing i
      | none => false
  | _ => false

variable {c : Connection} {l : EndLabel} {v : View}

/-- Each entry is that of a stream with an open leg. -/
theorem count_entries (hInv : c.view.Inv)
    (hOpen : ∀ streamId i h, c.table.lookup streamId = some i → c.handles[i]? = some h →
      h.hasOpenLeg = true) :
    c.table.keys.length ≤ (c.handles.filter Handle.hasOpenLeg).length := by
  have hSubset : c.table.keys ⊆ (c.handles.filter Handle.hasOpenLeg).map Handle.id := by
    intro streamId hKey
    obtain ⟨i, hEntry⟩ := Option.isSome_iff_exists.mp (AList.lookup_isSome.mpr hKey)
    obtain ⟨h, hGet, hId⟩ := get_of_entry hInv hEntry
    have hMem : h ∈ c.handles.filter Handle.hasOpenLeg :=
      List.mem_filter.mpr ⟨List.mem_of_getElem? hGet, hOpen streamId i h hEntry hGet⟩
    exact List.mem_map.mpr ⟨h, hMem, hId⟩
  have hLe := (c.table.keys_nodup.subperm hSubset).length_le
  rwa [List.length_map] at hLe

theorem cleared_iff (hInv : c.view.Inv) :
    c.Cleared ↔ ∀ streamId i h, c.table.lookup streamId = some i → c.handles[i]? = some h →
      h.stream.finSent = true → h.stream.peerFin = true → c.reader = .closing i := by
  refine ⟨Cleared.entries, fun hEntries => ⟨hEntries, fun hFree => ?_⟩⟩
  apply count_entries hInv
  intro streamId i h hEntry hGet
  by_contra hClosed
  simp only [Handle.hasOpenLeg, Bool.or_eq_true, Bool.not_eq_true', not_or,
    Bool.not_eq_false] at hClosed
  exact hFree i (hEntries streamId i h hEntry hGet hClosed.1 hClosed.2)

theorem finishesLast_iff :
    c.finishesLast l = true ↔ ∃ i h, l = .act (.call i .finish) ∧ c.handles[i]? = some h ∧
      h.call = .finishing ∧ h.stream.peerFin = true ∧ c.table.lookup h.id = some i ∧
      c.reader ≠ .closing i := by
  constructor
  · intro hLast
    unfold finishesLast at hLast
    split at hLast
    · next i =>
      split at hLast
      · next h hGet =>
        simp only [Bool.and_eq_true, decide_eq_true_eq] at hLast
        exact ⟨i, h, rfl, hGet, hLast.1.1.1, hLast.1.1.2, hLast.1.2, hLast.2⟩
      · cases hLast
    · cases hLast
  · rintro ⟨i, h, rfl, hGet, hCall, hPeer, hEntry, hReader⟩
    simp [finishesLast, hGet, hCall, hPeer, hEntry, hReader]

/-- Other steps than the last close of an own leg leave nothing behind. -/
theorem Move.cleared (hMove : Move c l v) (hInv : c.view.Inv) (hDead : v.dead = false)
    (hStopped : v.reader ≠ .stopped) (hLast : c.finishesLast l = false)
    (hCleared : ∀ streamId i h, c.table.lookup streamId = some i → c.handles[i]? = some h →
      h.stream.finSent = true → h.stream.peerFin = true → c.reader = .closing i) :
    ∀ streamId i h, v.table.lookup streamId = some i → v.handles[i]? = some h →
      h.stream.finSent = true → h.stream.peerFin = true → v.reader = .closing i := by
  intro streamId k g hEntry hGet hFin hPeer
  have hSame {i : Nat} {h h' : Handle} (hGet : (c.handles.set i h')[k]? = some g)
      (hEntry : c.table.lookup streamId = some k) (hAt : c.handles[i]? = some h)
      (hFins : h'.stream.finSent = h.stream.finSent)
      (hPeers : h'.stream.peerFin = h.stream.peerFin) : c.reader = .closing k := by
    rcases get_of_set hGet with ⟨rfl, rfl⟩ | ⟨-, hOther⟩
    · exact hCleared streamId k h hEntry hAt (hFins ▸ hFin) (hPeers ▸ hPeer)
    · exact hCleared streamId k g hEntry hOther hFin hPeer
  have hNew {id : Nat} {call : Call} (hGet : (c.handles ++ [newHandle id call])[k]? = some g)
      (hEntry : (c.table.insert id c.handles.length).lookup streamId = some k) :
      c.reader = .closing k := by
    rcases get_of_append hGet with ⟨-, rfl⟩ | hOther
    · cases hFin
    · have hLt := (List.getElem?_eq_some_iff.mp hOther).1
      rw [AList.lookup_insert_eq_ite] at hEntry
      split_ifs at hEntry
      · cases hEntry
        exact absurd hLt (Nat.lt_irrefl _)
      · exact hCleared streamId k g hEntry hOther hFin hPeer
  cases hMove with
  | stay | controls | sends => exact hCleared streamId k g hEntry hGet hFin hPeer
  | @call i h step hAt =>
    have hTook := Handle.took_step (c.context i h) h step
    have hProper := hInv.proper h (List.mem_of_getElem? hAt)
    rcases get_of_set hGet with ⟨rfl, rfl⟩ | ⟨-, hOther⟩
    · rw [(Handle.took_same hProper hTook).1.peerFin_eq] at hPeer
      rcases Handle.took_finSent hTook hProper hFin with hSent | ⟨rfl, hCall⟩
      · exact hCleared streamId k h hEntry hAt hSent hPeer
      · by_contra hReader
        obtain ⟨own, hOwn, hId⟩ := get_of_entry hInv hEntry
        cases hOwn.symm.trans hAt
        rw [finishesLast_iff.mpr ⟨k, h, rfl, hAt, hCall, hPeer, hId ▸ hEntry, hReader⟩] at hLast
        cases hLast
    · exact hCleared streamId k g hEntry hOther hFin hPeer
  | announces hAt | cancels hAt | accepts hAt => exact hSame hGet hEntry hAt rfl rfl
  | unannounced hAt => exact hSame hGet (AList.lookup_of_erase hEntry).2 hAt rfl rfl
  | opens => exact hNew hGet hEntry
  | inbound hIdle => simpa [hIdle] using hNew hGet hEntry
  | collides | fails => cases hDead
  | quits => exact absurd rfl hStopped
  | data _ hIdle => simpa [hIdle] using hCleared streamId k g hEntry hGet hFin hPeer
  | closes hIdle hLookup =>
    rcases get_of_set hGet with ⟨rfl, rfl⟩ | ⟨-, hOther⟩
    · rfl
    · simpa [hIdle] using hCleared streamId k g hEntry hOther hFin hPeer
  | window _ hLookup hGrant =>
    rw [Stream.grant_eq hGrant] at hGet
    exact hSame hGet hEntry (lookup_eq_some hLookup).2 rfl rfl
  | tearsDown _ _ _ _ hLookup =>
    exact hSame hGet (AList.lookup_of_erase hEntry).2 (lookup_eq_some hLookup).2 rfl rfl
  | passesOver => exact hCleared streamId k g (AList.lookup_of_erase hEntry).2 hGet hFin hPeer
  | forwards _ hIdle => simpa [hIdle] using hCleared streamId k g hEntry hGet hFin hPeer
  | pushes hReader hAt => simpa [hReader] using hSame hGet hEntry hAt rfl rfl
  | @closed i h hReader hAt =>
    -- the entry of the stream that the reader was at has gone, if it was of this kind
    dsimp only at hEntry
    split_ifs at hEntry with hSent
    · have hAll := hCleared streamId k g (AList.lookup_of_erase hEntry).2 hGet hFin hPeer
      obtain ⟨own, hOwn, hId⟩ := get_of_entry hInv (AList.lookup_of_erase hEntry).2
      rw [hReader, Reader.closing.injEq] at hAll
      subst hAll
      cases hOwn.symm.trans hAt
      rw [← hId, AList.lookup_erase] at hEntry
      cases hEntry
    · have hAll := hCleared streamId k g hEntry hGet hFin hPeer
      rw [hReader, Reader.closing.injEq] at hAll
      subst hAll
      cases hAt.symm.trans hGet
      exact absurd hFin hSent
  | resumes hReader =>
    have hAll := hCleared streamId k g hEntry hGet hFin hPeer
    rcases hReader with ⟨i, hReader⟩ | ⟨frame, lost, hReader⟩ <;> simp [hReader] at hAll

/-- The step that leaves an entry behind. -/
theorem not_cleared_of_finishesLast (hLive : c.Live) (hLast : c.finishesLast l = true) :
    (c.next l).Live ∧ ¬ (c.next l).Cleared := by
  obtain ⟨i, h, rfl, hGet, hCall, hPeer, hEntry, hReader⟩ := finishesLast_iff.mp hLast
  have hNext : c.next (.act (.call i .finish)) =
      c.setHandle i { h with call := .idle, stream := h.stream.finish } := by
    simp [next, act, call, hGet, Handle.step, hCall]
  rw [hNext]
  refine ⟨hLive, fun hCleared => hReader ?_⟩
  exact hCleared.entries h.id i _ hEntry (get_setHandle hGet _) rfl hPeer

theorem cleared_step (hInv : c.view.Inv) (hCleared : c.Live → c.Cleared) :
    ((c.next l).Live → (c.next l).Cleared) ↔ (c.Live → c.finishesLast l = false) := by
  constructor
  · intro hNext hLive
    by_contra hLast
    obtain ⟨hStays, hLeft⟩ := not_cleared_of_finishesLast hLive (by simpa using hLast)
    exact hLeft (hNext hStays)
  · intro hLast hLive
    have hMove := move_next c l
    have hBefore : c.Live := hMove.live hLive.1 hLive.2
    exact (cleared_iff (inv_next hInv l)).mpr (hMove.cleared hInv hLive.1 hLive.2 (hLast hBefore)
      (hCleared hBefore).entries)

/-- The table is free of closed streams as long as no stream is closed first by the peer and
then by its owner. -/
theorem closed_streams_leave (hSpawned : c.Spawned) (labels : List EndLabel) :
    Always next (fun c => c.Live → c.Cleared) c labels ↔
      EachStep next (fun c l => c.Live → c.finishesLast l = false) c labels := by
  have hStart : c.Cleared := by
    rw [cleared_iff hSpawned.inv]
    rcases hSpawned with ⟨role, rfl⟩ | rfl <;> simp [spawn, spawnRelayLink]
  exact always_iff_eachStep (fun _ l hInv => inv_next hInv l)
    (fun _ _ hInv hCleared => cleared_step hInv hCleared) labels c hSpawned.inv (fun _ => hStart)

/-- `poll_shutdown` on the first stream. -/
def shutOne : List EndLabel :=
  [.act (.call 0 .shutdown), .act (.call 0 .sendClose), .act (.call 0 .finish)]

/-- The owner closes first. -/
theorem owner_first_leaves :
    Always next (fun c => c.Live → c.Cleared) (spawn .server) (acceptOne ++ shutOne ++ closeOne) :=
  (closed_streams_leave (Or.inl ⟨.server, rfl⟩) _).mpr (by decide)

/-- The peer closes first, and the entry stays for good. -/
theorem peer_first_stays :
    (run next (spawn .server) (acceptOne ++ closeOne ++ shutOne)).Live ∧
      ¬ (run next (spawn .server) (acceptOne ++ closeOne ++ shutOne)).Cleared := by
  refine ⟨by decide, fun hCleared => ?_⟩
  have hReader := hCleared.entries 1 0 _ (by decide) rfl rfl rfl
  exact absurd hReader (by decide)

end Connection

end WaitAgent.Mux
