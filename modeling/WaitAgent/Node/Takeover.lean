import WaitAgent.Node.RemoteViewer
import WaitAgent.Verified.Run

/-!
# Output after a takeover

A viewer that is taken over by a new connection should go on showing what the
session prints: each frame that is read on the connection that owns the writer is
fed to the terminal, once.

The observer tells duplicates by one number, which is as old as the viewer, while
the numbers of the frames are only comparable if one host gave them.  A takeover
does not clear the number, so the first frames of a host that was spawned anew
are dropped.  The main result says when this does not happen: each frame that is
read comes from the host whose frames were fed since the number was cleared, and
no earlier frame of that host waits on another connection.
-/

namespace WaitAgent.Node

open Remote Verified

namespace RemoteViewer

/-- **The step feeds what the current connection reads, once.** -/
structure FedOnce (m : RemoteViewer) (label : ViewerLabel) : Prop where
  fed : ∀ connection frame, label = .read connection → m.session.writer = some connection →
    m.nextFrame connection = some frame → (m.step label).fed = m.fed ++ [frame]
  once : (m.step label).fed.Nodup
  terminal : (m.step label).session.observer.terminal = (m.step label).fed.map (·.outputBytes)

/-- A frame is read only if it is of the host whose frames were fed since the
observer's number was cleared, and before later frames of that host on other
connections. -/
def OneNumbering (m : RemoteViewer) : ViewerLabel → Prop
  | .read connection => ∀ frame ∈ m.nextFrame connection,
      (m.source = none ∨ m.source = some frame.host) ∧
      ∀ p ∈ m.pending, p.1 ≠ connection → p.2.host = frame.host →
        frame.outputSeq < p.2.outputSeq
  | _ => True

/-! ## Frames in the order of their numbers -/

/-- If one host gave both numbers, they are in order. -/
def Before (f g : OutputFrame) : Prop :=
  f.host = g.host → f.outputSeq < g.outputSeq

/-- What was fed, then what has yet to be read. -/
def frames (m : RemoteViewer) : List OutputFrame :=
  m.fed ++ m.pending.map (·.2)

/-- The frames of each host were fed, and wait, in the order of their numbers; the
observer's number is the one of a frame that was fed. -/
structure Inv (m : RemoteViewer) : Prop where
  ordered : m.frames.Pairwise Before
  numbered : ∀ f ∈ m.frames, f.host < m.nextHost ∧
    ∀ n, m.hosts.lookup f.host = some n → f.outputSeq < n
  hosts : ∀ h n, m.hosts.lookup h = some n → h < m.nextHost
  last : ∀ last, m.session.observer.lastOutputSeq = some last →
    ∃ f ∈ m.fed, f.outputSeq = last ∧ m.source = some f.host
  terminal : m.session.observer.terminal = m.fed.map (·.outputBytes)
  connections : ∀ c phase, m.connections.lookup c = some phase → c < m.session.nextConnectionSeq
  writer : ∀ c, m.session.writer = some c →
    m.session.currentWriterSeq = c ∧ m.connections.lookup c = some .reading

variable {m : RemoteViewer}

theorem Inv.nodup (hInv : Inv m) : m.fed.Nodup := by
  have hOrdered : m.fed.Pairwise Before := (List.pairwise_append.mp hInv.ordered).1
  refine hOrdered.imp fun hBefore => ?_
  rintro rfl
  exact Nat.lt_irrefl _ (hBefore rfl)

/-- Frames that are lost do not matter. -/
theorem Inv.lose (hInv : Inv m) {pending : List (Nat × OutputFrame)}
    (hPending : pending.Sublist m.pending) : Inv { m with pending := pending } := by
  have hFrames : ({ m with pending := pending } : RemoteViewer).frames.Sublist m.frames :=
    (List.Sublist.refl m.fed).append (hPending.map _)
  exact { hInv with
    ordered := hInv.ordered.sublist hFrames
    numbered := fun f hf => hInv.numbered f (hFrames.mem hf) }

/-! ## Connections -/

/-- Only the connections and the writer change, and the writer is one that reads. -/
theorem Inv.connect (hInv : Inv m) (session : RatatuiRemoteSession)
    (connections : HashMap Nat ConnectionPhase) (disconnects : Nat)
    (hObserver : session.observer = m.session.observer)
    (hConnections : ∀ c phase, connections.lookup c = some phase → c < session.nextConnectionSeq)
    (hWriter : ∀ c, session.writer = some c →
      session.currentWriterSeq = c ∧ connections.lookup c = some .reading) :
    Inv { m with session := session, connections := connections, disconnects := disconnects } where
  ordered := hInv.ordered
  numbered := hInv.numbered
  hosts := hInv.hosts
  last := hObserver ▸ hInv.last
  terminal := hObserver ▸ hInv.terminal
  connections := hConnections
  writer := hWriter

theorem Inv.shutdown (hInv : Inv m) {c : Nat} {phase : ConnectionPhase}
    (h : (shutdown m.connections m.session.writer).lookup c = some phase) :
    c < m.session.nextConnectionSeq := by
  unfold RemoteViewer.shutdown at h
  split at h
  · rename_i previous hPrevious
    rw [AList.lookup_insert_eq_ite] at h
    split at h
    · rename_i hEq
      rw [hEq]
      exact hInv.connections _ _ (hInv.writer previous hPrevious).2
    · exact hInv.connections c phase h
  · exact hInv.connections c phase h

variable {frame : OutputFrame} {connection : Nat}

theorem Inv.takeOver (hInv : Inv m) (hHello : m.connections.lookup connection = some .hello) :
    Inv (m.takeOver connection) := by
  refine hInv.connect { m.session with writer := some connection, currentWriterSeq := connection }
    _ m.disconnects rfl (fun c phase h => ?_) (fun c hc => ?_)
  · rw [AList.lookup_insert_eq_ite] at h
    split at h
    · rename_i hEq
      rw [hEq]
      exact hInv.connections connection _ hHello
    · exact hInv.shutdown h
  · obtain rfl : connection = c := Option.some.inj hc
    exact ⟨rfl, AList.lookup_insert _⟩

theorem Inv.readerExit (hInv : Inv m) (connection : Nat) : Inv (m.readerExit connection) := by
  have hLost := hInv.lose (List.filter_sublist (p := fun p => p.1 != connection))
  have hConnections (c : Nat) (phase : ConnectionPhase)
      (h : (m.connections.erase connection).lookup c = some phase) :
      m.connections.lookup c = some phase :=
    (AList.lookup_of_erase h).2
  unfold RemoteViewer.readerExit
  dsimp only
  by_cases hCurrent : m.session.currentWriterSeq = connection
  · rw [if_pos hCurrent]
    refine hLost.connect { m.session with writer := none } _ _ rfl (fun c phase h => ?_)
      (fun c hc => ?_)
    · exact hInv.connections c phase (hConnections c phase h)
    · cases hc
  · rw [if_neg hCurrent]
    refine hLost.connect m.session _ _ rfl (fun c phase h => ?_) (fun c hc => ?_)
    · exact hInv.connections c phase (hConnections c phase h)
    · obtain ⟨hSeq, hReading⟩ := hInv.writer c hc
      refine ⟨hSeq, ?_⟩
      rw [AList.lookup_erase_eq_ite, if_neg, hReading]
      exact fun hEq => hCurrent (hSeq.trans hEq)

/-! ## Feeding -/

/-- The next frame of a connection stands behind frames of other connections. -/
theorem split_pending (h : m.nextFrame connection = some frame) :
    ∃ first rest, m.pending = first ++ (connection, frame) :: rest ∧
      (m.pending.eraseP fun p => p.1 == connection) = first ++ rest ∧
      ∀ p ∈ first, p.1 ≠ connection := by
  obtain ⟨⟨c, frame'⟩, hFind, rfl⟩ := Option.map_eq_some_iff.mp h
  obtain ⟨hConnection, first, rest, hSplit, hFirst⟩ := List.find?_eq_some_iff_append.mp hFind
  obtain rfl : c = connection := by simpa using hConnection
  have hOther (p : Nat × OutputFrame) (hp : p ∈ first) : p.1 ≠ c := by simpa using hFirst p hp
  refine ⟨first, rest, hSplit, ?_, hOther⟩
  rw [hSplit, List.eraseP_append_right _ (by simpa using hOther), List.eraseP_cons_of_pos (by simp)]

/-- Under the condition a frame is not taken for a duplicate. -/
theorem Inv.not_duplicate (hInv : Inv m) (hFrame : m.nextFrame connection = some frame)
    (hSource : m.source = none ∨ m.source = some frame.host) :
    m.session.observer.isDuplicate frame.outputSeq = false := by
  refine RemoteObserverRuntime.isDuplicate_eq_false fun last hLast => ?_
  obtain ⟨f, hf, rfl, hHost⟩ := hInv.last last hLast
  obtain ⟨first, rest, hPending, -⟩ := split_pending hFrame
  have hBefore : Before f frame := by
    refine (List.pairwise_append.mp hInv.ordered).2.2 f hf frame ?_
    rw [hPending]
    simp
  rcases hSource with hNone | hSame
  · rw [hNone] at hHost
    cases hHost
  · exact hBefore (Option.some.inj (hHost.symm.trans hSame))

/-- A frame that is fed before later ones keeps the order. -/
theorem Inv.feed (hInv : Inv m) (hFrame : m.nextFrame connection = some frame)
    (hSource : m.source = none ∨ m.source = some frame.host)
    (hFirst : ∀ p ∈ m.pending, p.1 ≠ connection → p.2.host = frame.host →
      frame.outputSeq < p.2.outputSeq) : Inv (m.feed connection frame) := by
  have hNew := hInv.not_duplicate hFrame hSource
  obtain ⟨first, rest, hPending, hErased, hOther⟩ := split_pending hFrame
  have hBefore : m.frames = m.fed ++ (first.map (·.2) ++ frame :: rest.map (·.2)) := by
    rw [frames, hPending]
    simp
  have hAfter : (m.feed connection frame).frames
      = m.fed ++ frame :: (first.map (·.2) ++ rest.map (·.2)) := by
    rw [frames, RemoteViewer.feed]
    dsimp only
    rw [hNew, hErased]
    simp
  have hPerm : (m.feed connection frame).frames.Perm m.frames := by
    rw [hBefore, hAfter]
    exact List.perm_middle.symm.append_left m.fed
  refine {
    ordered := ?_
    numbered := fun f hf => hInv.numbered f (hPerm.mem_iff.mp hf)
    hosts := hInv.hosts
    last := fun last hLast => ?_
    terminal := ?_
    connections := hInv.connections
    writer := hInv.writer }
  · rw [hAfter]
    have hOrdered := hInv.ordered
    rw [hBefore] at hOrdered
    have hEarlier : ∀ f ∈ first.map (·.2), Before frame f := by
      intro f hf hHost
      obtain ⟨p, hp, rfl⟩ := List.mem_map.mp hf
      exact hFirst p (by rw [hPending]; simp [hp]) (hOther p hp) hHost.symm
    simp only [List.pairwise_append, List.pairwise_cons, List.mem_append, List.mem_cons]
      at hOrdered ⊢
    obtain ⟨hFed, ⟨hFirst', ⟨hFrame', hRest⟩, hFirstRest⟩, hFedRest⟩ := hOrdered
    refine ⟨hFed, ⟨fun f hf => hf.elim (hEarlier f) (hFrame' f), hFirst', hRest,
      fun f hf g hg => hFirstRest f hf g (.inr hg)⟩, fun f hf g hg => hFedRest f hf g ?_⟩
    rcases hg with hg | hg | hg
    · exact .inr (.inl hg)
    · exact .inl hg
    · exact .inr (.inr hg)
  · rw [RemoteViewer.feed] at hLast ⊢
    dsimp only at hLast ⊢
    rw [RemoteObserverRuntime.feedRawOutput, hNew] at hLast
    rw [hNew]
    exact ⟨frame, by simp, Option.some.inj hLast, rfl⟩
  · rw [RemoteViewer.feed]
    dsimp only
    rw [RemoteObserverRuntime.feedRawOutput, hNew]
    simp [hInv.terminal]

/-! ## Hosts -/

/-- A host counts a frame it sent. -/
theorem Inv.count (hInv : Inv m) {host outputSeq : Nat}
    (hSeq : m.hosts.lookup host = some outputSeq) :
    Inv { m with hosts := m.hosts.insert host (outputSeq + 1) } := by
  have hHosts (h n : Nat) (hLookup : (m.hosts.insert host (outputSeq + 1)).lookup h = some n) :
      ∃ n', m.hosts.lookup h = some n' ∧ n' ≤ n := by
    rw [AList.lookup_insert_eq_ite] at hLookup
    split at hLookup
    · rename_i hEq
      obtain rfl := Option.some.inj hLookup
      exact ⟨outputSeq, hEq ▸ hSeq, Nat.le_succ _⟩
    · exact ⟨n, hLookup, Nat.le_refl n⟩
  refine { hInv with
    numbered := fun f hf => ⟨(hInv.numbered f hf).1, fun n hLookup => ?_⟩
    hosts := fun h n hLookup => ?_ }
  · obtain ⟨n', hLookup', hLe⟩ := hHosts f.host n hLookup
    exact Nat.lt_of_lt_of_le ((hInv.numbered f hf).2 n' hLookup') hLe
  · obtain ⟨n', hLookup', -⟩ := hHosts h n hLookup
    exact hInv.hosts h n' hLookup'

/-- A frame with a number above all others of its host arrives. -/
theorem Inv.arrive (hInv : Inv m) (connection : Nat) (hHost : frame.host < m.nextHost)
    (hNumber : ∀ n, m.hosts.lookup frame.host = some n → frame.outputSeq < n)
    (hAbove : ∀ f ∈ m.frames, Before f frame) :
    Inv { m with pending := m.pending ++ [(connection, frame)] } := by
  have hFrames : ({ m with pending := m.pending ++ [(connection, frame)] } : RemoteViewer).frames
      = m.frames ++ [frame] := by
    simp [frames]
  refine { hInv with ordered := ?_, numbered := fun f hf => ?_ }
  · rw [hFrames, List.pairwise_append]
    refine ⟨hInv.ordered, List.pairwise_singleton _ _, fun f hf g hg => ?_⟩
    rw [List.mem_singleton.mp hg]
    exact hAbove f hf
  · rw [hFrames] at hf
    rcases List.mem_append.mp hf with hf | hf
    · exact hInv.numbered f hf
    · rw [List.mem_singleton.mp hf]
      exact ⟨hHost, hNumber⟩

theorem Inv.output (hInv : Inv m) (host : Nat) (connection : Option Nat) (bytes : List UInt8) :
    Inv (m.output host connection bytes) := by
  unfold RemoteViewer.output
  split
  · exact hInv
  · rename_i outputSeq hSeq
    have hCounted := hInv.count hSeq
    cases connection.filter m.receives with
    | none => simpa using hCounted
    | some c =>
      refine hCounted.arrive c (hInv.hosts host outputSeq hSeq) (fun n hLookup => ?_)
        fun f hf hHost => ?_
      · obtain rfl : outputSeq + 1 = n :=
          Option.some.inj ((AList.lookup_insert m.hosts).symm.trans hLookup)
        exact Nat.lt_succ_self outputSeq
      · exact (hInv.numbered f hf).2 outputSeq (hHost ▸ hSeq)

theorem Inv.spawnHost (hInv : Inv m) : Inv (m.step .spawnHost) := by
  have hOther (f : OutputFrame) (hf : f ∈ m.frames) (n : Nat)
      (h : (m.hosts.insert m.nextHost 1).lookup f.host = some n) :
      m.hosts.lookup f.host = some n := by
    have hHost := (hInv.numbered f hf).1
    rwa [AList.lookup_insert_eq_ite, if_neg (by omega)] at h
  refine { hInv with
    numbered := fun f hf => ?_
    hosts := fun h n hLookup => ?_ }
  · obtain ⟨hHost, hSeq⟩ := hInv.numbered f hf
    exact ⟨Nat.lt_succ_of_lt hHost, fun n hLookup => hSeq n (hOther f hf n hLookup)⟩
  · show h < m.nextHost + 1
    change (m.hosts.insert m.nextHost 1).lookup h = some n at hLookup
    rw [AList.lookup_insert_eq_ite] at hLookup
    split at hLookup
    · omega
    · exact Nat.lt_succ_of_lt (hInv.hosts h n hLookup)

theorem Inv.shutdownHost (hInv : Inv m) (host : Nat) : Inv (m.step (.shutdownHost host)) := by
  have hOther (h n : Nat) (hLookup : (m.hosts.erase host).lookup h = some n) :
      m.hosts.lookup h = some n :=
    (AList.lookup_of_erase hLookup).2
  exact { hInv with
    numbered := fun f hf => ⟨(hInv.numbered f hf).1,
      fun n hLookup => (hInv.numbered f hf).2 n (hOther f.host n hLookup)⟩
    hosts := fun h n hLookup => hInv.hosts h n (hOther h n hLookup) }

/-! ## The main result -/

theorem Inv.accept (hInv : Inv m) : Inv (m.step .accept) := by
  rw [RemoteViewer.step]
  split
  · refine hInv.connect { m.session with nextConnectionSeq := m.session.nextConnectionSeq + 1 }
      _ m.disconnects rfl (fun c phase h => ?_) (fun c hc => ?_)
    · show c < m.session.nextConnectionSeq + 1
      rw [AList.lookup_insert_eq_ite] at h
      split at h
      · omega
      · exact Nat.lt_succ_of_lt (hInv.connections c phase h)
    · obtain ⟨hSeq, hReading⟩ := hInv.writer c hc
      have hBound := hInv.connections c .reading hReading
      refine ⟨hSeq, ?_⟩
      rw [AList.lookup_insert_eq_ite, if_neg (by omega), hReading]
  · exact hInv

theorem Inv.handshake (hInv : Inv m) (connection : Nat) (succeeded : Bool) :
    Inv (m.step (.handshake connection succeeded)) := by
  rw [RemoteViewer.step]
  split
  · rename_i hHello
    split
    · exact hInv.takeOver hHello
    · have hLost := hInv.lose (List.filter_sublist (p := fun p => p.1 != connection))
      refine hLost.connect m.session _ m.disconnects rfl (fun c phase h => ?_) (fun c hc => ?_)
      · exact hInv.connections c phase (AList.lookup_of_erase h).2
      · obtain ⟨hSeq, hReading⟩ := hInv.writer c hc
        refine ⟨hSeq, ?_⟩
        rw [AList.lookup_erase_eq_ite, if_neg, hReading]
        rintro rfl
        rw [hHello] at hReading
        cases hReading
  · exact hInv

/-- A step meeting the condition keeps the order. -/
theorem Inv.step (hInv : Inv m) (label : ViewerLabel) (h : m.OneNumbering label) :
    Inv (m.step label) := by
  cases label with
  | accept => exact hInv.accept
  | handshake connection succeeded => exact hInv.handshake connection succeeded
  | read connection =>
    rw [RemoteViewer.step]
    split
    · exact hInv
    · rename_i frame hFrame
      obtain ⟨hSource, hFirst⟩ := h frame hFrame
      split
      · exact hInv.feed hFrame hSource hFirst
      · exact hInv
  | readerExit connection =>
    rw [RemoteViewer.step]
    split
    · exact hInv.readerExit connection
    · exact hInv
  | clearOutputSeq => exact { hInv with last := fun last hLast => nomatch hLast }
  | stop =>
    exact hInv.connect { m.session with closed := true, running := false, writer := none }
      _ m.disconnects rfl (fun c phase hc => hInv.shutdown hc) fun c hc => nomatch hc
  | spawnHost => exact hInv.spawnHost
  | shutdownHost host => exact hInv.shutdownHost host
  | output host connection bytes => exact hInv.output host connection bytes

theorem inv_start : Inv {} where
  ordered := .nil
  numbered _ hf := nomatch hf
  hosts _ _ hLookup := nomatch hLookup
  last _ hLast := nomatch hLast
  terminal := rfl
  connections _ _ h := nomatch h
  writer _ hc := nomatch hc

theorem Inv.fedOnce (hInv : Inv m) (label : ViewerLabel) (h : m.OneNumbering label) :
    m.FedOnce label where
  fed connection frame hLabel hWriter hFrame := by
    subst hLabel
    have hReads : m.reads connection = true := by
      rw [reads, (hInv.writer connection hWriter).2]
      rfl
    have hNew := hInv.not_duplicate hFrame (h frame hFrame).1
    rw [RemoteViewer.step, hFrame]
    dsimp only
    rw [if_pos hReads, RemoteViewer.feed]
    dsimp only
    rw [hNew]
    rfl
  once := (hInv.step label h).nodup
  terminal := (hInv.step label h).terminal

theorem nextConnectionSeq_step_le (m : RemoteViewer) (label : ViewerLabel) :
    (m.step label).session.nextConnectionSeq ≤ m.session.nextConnectionSeq + 1 := by
  cases label with
  | output host connection bytes => rw [step, output]; split <;> simp
  | readerExit connection => rw [step, readerExit]; split <;> simp [apply_ite]
  | _ => grind [step, takeOver, feed]

/-- Connections are numbered from one on, so `n` steps need the numbers up to `n` only. -/
theorem nextConnectionSeq_run_le (labels : List ViewerLabel) :
    (run step {} labels).session.nextConnectionSeq ≤ 1 + labels.length :=
  count_run_le (fun m : RemoteViewer => m.session.nextConnectionSeq) nextConnectionSeq_step_le
    labels {}

/-- **Output is fed after a takeover.**  In every run of a viewer in which the
frames that are read are numbered by one host since the observer's number was
cleared, each frame read on the current connection is fed once. -/
theorem output_fed_after_takeover (labels : List ViewerLabel)
    (h : EachStep step OneNumbering {} labels) : EachStep step FedOnce {} labels :=
  h.imp (I := Inv) (fun _ label hInv h => hInv.step label h)
    (fun _ label hInv h => hInv.fedOnce label h) labels _ inv_start

/-- A bridge connects and shows two frames of a host; then a second bridge takes
the viewer over. -/
def takenOver : List ViewerLabel :=
  [.spawnHost, .accept, .handshake 1 true, .output 0 (some 1) [36], .read 1,
    .output 0 (some 1) [108, 115], .read 1, .accept, .handshake 2 true]

/-- The host lives on, and its third frame is shown. -/
theorem output_fed_after_bridge_reconnect :
    EachStep step FedOnce {} (takenOver ++ [.output 0 (some 2) [10], .read 2]) := by
  refine output_fed_after_takeover _ ⟨trivial, trivial, trivial, trivial, fun frame hFrame => ?_,
    trivial, fun frame hFrame => ?_, trivial, trivial, trivial, fun frame hFrame => ?_, trivial⟩
  all_goals
    obtain rfl := Option.some.inj hFrame
    decide

/-- The host was shut down with the peer's connection, and the first frame of the
one spawned in its place is dropped. -/
theorem output_dropped_after_respawn :
    ¬ EachStep step FedOnce {}
      (takenOver ++ [.shutdownHost 0, .spawnHost, .output 1 (some 2) [36], .read 2]) := by
  intro hFed
  obtain ⟨-, -, -, -, -, -, -, -, -, -, -, -, hRead, -⟩ := hFed
  have hFrame := hRead.fed 2 ⟨1, 1, [36]⟩ rfl (by decide) (by decide)
  revert hFrame
  decide

end RemoteViewer

end WaitAgent.Node
