import WaitAgent.Mux.Calls
import WaitAgent.Mux.EndOfStream

/-!
# Deferred grants

A grant that finds the outbound queue full waits for the next read of its stream.  If the
sender has used up its credit by then, there is nothing left to read.  Which grants are kept
back is told by the calls alone: the last one of a stream was put off, and no chunk has been
taken since.
-/

namespace WaitAgent.Mux

open Verified

/-- A grant that is made at all is over the threshold. -/
theorem Stream.accountConsumed_grant (s : Stream) (consumed : Nat) :
    (s.accountConsumed consumed).1 = 0 ∨
      windowGrantThreshold ≤ (s.accountConsumed consumed).1 := by
  simp only [Stream.accountConsumed]
  split_ifs with hReached
  · exact Or.inr hReached
  · exact Or.inl rfl

namespace Handle

/-- Whether the stream keeps a grant back after a step of a call: one that finds the queue full
is put off, and the next read that takes a chunk tries it again. -/
def keepsGrant (ctx : Context) (h : Handle) (kept : Bool) : CallStep → Bool
  | .grant => kept || (ctx.queue = .full && h.call matches .granting _)
  | .read room =>
      kept && !(h.call = .idle && room ≠ 0 && !decide h.stream.HasLeftover &&
        !h.stream.inbound.isEmpty)
  | _ => kept

/-- The count of a stream that keeps a grant back is over the threshold, and so is every grant
on its way. -/
structure Books (kept : Bool) (h : Handle) : Prop where
  kept_iff : kept = true ↔ windowGrantThreshold ≤ h.stream.consumedAccum
  granting : ∀ delta, h.call = .granting delta → windowGrantThreshold ≤ delta

variable {ctx : Context} {h g : Handle} {kept : Bool}

theorem Books.same (hBooks : Books kept h)
    (hAccum : g.stream.consumedAccum = h.stream.consumedAccum)
    (hCall : ∀ delta, g.call = .granting delta → h.call = .granting delta) : Books kept g :=
  ⟨by rw [hAccum]; exact hBooks.kept_iff, fun delta hg => hBooks.granting delta (hCall delta hg)⟩

/-- Most calls have nothing to do with grants. -/
theorem Books.took {c : CallStep} {frame : Option Frame} (hBooks : Books kept h)
    (hTook : Took ctx h c g frame) (hGrant : c ≠ .grant) (hRead : ∀ room, c ≠ .read room) :
    Books kept g := by
  cases hTook with
  | stays => exact hBooks
  | reads room => exact absurd rfl (hRead room)
  | grants | defers => exact absurd rfl hGrant
  | endsRead =>
    unfold returnRead
    split <;> exact hBooks.same rfl nofun
  | _ => exact hBooks.same rfl nofun

theorem Books.read (hBooks : Books kept h) (hIdle : h.call = .idle) (room : Nat) :
    Books (h.keepsGrant ctx kept (.read room)) (h.read ctx room) := by
  unfold Handle.read
  obtain ⟨rfl, hStart⟩ | ⟨⟨-, hLeft⟩, hStart⟩ | ⟨chunk, rest, hPos, hLeft, hInbound, hStart⟩ |
    ⟨-, -, hInbound, hStart⟩ := h.stream.startRead_cases room ctx.hasSender
  · have hKept : h.keepsGrant ctx kept (.read 0) = kept := by simp [keepsGrant]
    rw [hStart, hKept]
    exact hBooks.same rfl nofun
  · have hKept : h.keepsGrant ctx kept (.read room) = kept := by simp [keepsGrant, hLeft]
    rw [hStart, hKept]
    exact hBooks.same rfl nofun
  · have hKept : h.keepsGrant ctx kept (.read room) = false := by
      simp [keepsGrant, hIdle, hLeft, hInbound, Nat.ne_of_gt hPos]
    rw [hStart, hKept]
    refine ⟨iff_of_false nofun (Nat.not_le_of_lt (Stream.accountConsumed_lt _ _)), ?_⟩
    intro delta hGranting
    dsimp only at hGranting
    split_ifs at hGranting with hNone
    cases hGranting
    exact (Stream.accountConsumed_grant _ _).resolve_left hNone
  · have hKept : h.keepsGrant ctx kept (.read room) = kept := by simp [keepsGrant, hInbound]
    rw [hStart, hKept]
    cases ctx.hasSender <;> exact hBooks.same rfl nofun

theorem Books.step (hBooks : Books kept h) (c : CallStep) :
    Books (h.keepsGrant ctx kept c) (h.step ctx c).1 := by
  cases c with
  | read room =>
    simp only [Handle.step]
    split
    · next hIdle => exact hBooks.read hIdle room
    · next hBusy =>
      have hKept : h.keepsGrant ctx kept (.read room) = kept := by
        simp [keepsGrant, show h.call ≠ .idle from hBusy]
      rw [hKept]
      exact hBooks
  | grant =>
    by_cases hIs : ∃ delta, h.call = .granting delta
    · obtain ⟨delta, hGranting⟩ := hIs
      have hDelta := hBooks.granting delta hGranting
      have hRest : Books kept { h with call := .idle } :=
        hBooks.same rfl fun _ hCall => by cases hCall
      simp only [Handle.step, keepsGrant, hGranting, Bool.and_true]
      cases hQueue : ctx.queue with
      | full =>
        refine ⟨iff_of_true (by simp) ?_, fun _ hCall => by cases hCall⟩
        simp only [Stream.deferGrant]
        omega
      | queued | closed => simpa using hRest
    · have hNot (delta : Nat) : h.call ≠ .granting delta := fun h => hIs ⟨delta, h⟩
      have hStays : h.step ctx .grant = (h, none) ∧ h.keepsGrant ctx kept .grant = kept := by
        unfold Handle.step keepsGrant
        cases hCall : h.call <;> simp_all
      rw [hStays.1, hStays.2]
      exact hBooks
  | _ =>
    exact hBooks.took (took_step ctx h _) (fun hCall => by cases hCall) fun _ hCall => by cases hCall

end Handle

namespace Duplex

/-- One direction of an open stream has run dry, from handle `i` of `side` to handle `j` of the
other side: there is no credit, nothing is under way in either direction, and nothing is left
to read. -/
structure Dry (d : Duplex) (side : Side) (i j : Nat) (sender receiver : Handle) : Prop where
  sender_mem : (d.ends side).handles[i]? = some sender
  receiver_mem : (d.ends side.other).handles[j]? = some receiver
  same_stream : sender.id = receiver.id
  sender_open : (d.ends side).table.lookup sender.id = some i
  receiver_open : (d.ends side.other).table.lookup receiver.id = some j
  no_credit : sender.stream.peerCredit = 0
  no_data_queued : ∀ payload, Frame.data sender.id payload ∉ (d.ends side).outbound
  no_data_under_way : ∀ payload, Frame.data sender.id payload ∉ d.wire side
  nothing_inbound : receiver.stream.inbound = []
  no_leftover : ¬ receiver.stream.HasLeftover
  no_window_queued : ∀ credit, Frame.window sender.id credit ∉ (d.ends side.other).outbound
  no_window_under_way : ∀ credit, Frame.window sender.id credit ∉ d.wire side.other

/-- The direction stands still: it has run dry, and the receiver keeps a grant to itself. -/
def Wedged (d : Duplex) (side : Side) (i j : Nat) (sender receiver : Handle) : Prop :=
  d.Dry side i j sender receiver ∧ windowGrantThreshold ≤ receiver.stream.consumedAccum

/-- The streams of each side that keep a grant back. -/
def kept (d : Duplex) (old : Side → Nat → Bool) : DuplexLabel → Side → Nat → Bool
  | .act side (.call i c) => fun other k =>
      if other = side ∧ k = i then
        ((d.ends side).handles[i]?).any fun h =>
          h.keepsGrant ((d.ends side).context i h) (old side i) c
      else old other k
  | _ => old

/-- An end does a step of its own, with a call exactly if the label is that call, or nothing. -/
theorem ends_step_next (d : Duplex) (l : DuplexLabel) (side : Side) :
    (d.step l).ends side = d.ends side ∧ (∀ a, l ≠ .act side a) ∨
      ∃ label, (d.step l).ends side = (d.ends side).next label ∧
        ∀ a, l = .act side a ↔ label = .act a := by
  cases l with
  | act other action =>
    by_cases hSide : side = other
    · subst hSide
      exact Or.inr ⟨.act action, Function.update_self .., by simp⟩
    · exact Or.inl ⟨Function.update_of_ne hSide .., fun _ h => hSide (by cases h; rfl)⟩
  | write other =>
    simp only [step]
    split
    · next frame c hWrite =>
      by_cases hSide : side = other
      · subst hSide
        refine Or.inr ⟨.write, ?_, by simp⟩
        rw [Connection.next, hWrite]
        exact Function.update_self ..
      · exact Or.inl ⟨Function.update_of_ne hSide .., by simp⟩
    · exact Or.inl ⟨rfl, by simp⟩
  | receive other =>
    simp only [step]
    split
    · next frame rest _ _ =>
      by_cases hSide : side = other
      · subst hSide
        exact Or.inr ⟨.receive frame, Function.update_self .., by simp⟩
      · exact Or.inl ⟨Function.update_of_ne hSide .., by simp⟩
    · exact Or.inl ⟨rfl, by simp⟩

/-- The books of the streams of a connection; a stream that is not there keeps nothing back. -/
def BooksOf (c : Connection) (kept : Nat → Bool) : Prop :=
  ∀ k, match c.handles[k]? with
    | some h => Handle.Books (kept k) h
    | none => kept k = false

theorem booksOf_next {c : Connection} {l : EndLabel} {old new : Nat → Bool}
    (hOld : BooksOf c old)
    (hCall : ∀ i step, l = .act (.call i step) → new i = (c.handles[i]?).any fun h =>
      h.keepsGrant (c.context i h) (old i) step)
    (hElse : ∀ k, (∀ step, l ≠ .act (.call k step)) → new k = old k) :
    BooksOf (c.next l) new := by
  have hMove := Connection.move_next c l
  intro k
  have hk := hOld k
  by_cases hIs : ∃ step, l = .act (.call k step)
  · obtain ⟨step, rfl⟩ := hIs
    rw [hCall k step rfl]
    simp only [Connection.next, Connection.act, Connection.call]
    cases hGet : c.handles[k]? with
    | none => simp [hGet]
    | some h =>
      have hSet := Connection.get_setHandle hGet (h.step (c.context k h) step).1
      rw [hGet] at hk
      rw [Connection.enqueue_handles, hSet]
      exact hk.step step
  · have hNot := not_exists.mp hIs
    rw [hElse k hNot]
    cases hGet : c.handles[k]? with
    | none =>
      rw [hGet] at hk
      cases hNext : (c.next l).handles[k]? with
      | none => exact hk
      | some g =>
        obtain ⟨id, call, rfl, hNew⟩ := hMove.fresh hGet hNext
        refine ⟨iff_of_false (by simp [hk]) (by decide : ¬ windowGrantThreshold ≤ 0), ?_⟩
        rintro delta rfl
        rcases hNew with hNew | hNew | ⟨_, hNew⟩ <;> cases hNew
    | some h =>
      rw [hGet] at hk
      have hLt := lt_of_lt_of_le (List.getElem?_eq_some_iff.mp hGet).1 hMove.length_le
      have hNext : (c.next l).handles[k]? = some (c.next l).view.handles[k] :=
        List.getElem?_eq_getElem hLt
      rw [hNext]
      cases hMove.outcome hGet hNext with
      | pushed _ _ hPush =>
        rw [hPush]
        exact hk.same rfl fun _ hg => hg
      | changed hChanged =>
        generalize (c.next l).view.handles[k] = g at hChanged ⊢
        cases hChanged with
        | took hLabel => exact absurd hLabel (hNot _)
        | placed hPlaced =>
          refine hk.same rfl fun delta hg => ?_
          rcases hPlaced with rfl | rfl <;> cases hg
        | _ => exact hk.same rfl fun _ hg => hg

end Duplex

/-- Two ends, and what each stream keeps back by its calls so far. -/
structure Audited where
  duplex : Duplex := Duplex.start
  kept : Side → Nat → Bool := fun _ _ => false

namespace Audited

def step (a : Audited) (l : DuplexLabel) : Audited :=
  { duplex := a.duplex.step l, kept := a.duplex.kept a.kept l }

def Inv (a : Audited) : Prop :=
  ∀ side, Duplex.BooksOf (a.duplex.ends side) (a.kept side)

theorem Inv.step {a : Audited} (hInv : a.Inv) (l : DuplexLabel) : (a.step l).Inv := by
  intro side
  have hOther (k : Nat) (hNot : ∀ step, l ≠ .act side (.call k step)) :
      a.duplex.kept a.kept l side k = a.kept side k := by
    unfold Duplex.kept
    split
    · next other i c =>
      refine if_neg fun hEq => ?_
      obtain ⟨rfl, rfl⟩ := hEq
      exact hNot c rfl
    · rfl
  obtain ⟨hSame, hNot⟩ | ⟨label, hNext, hIff⟩ := a.duplex.ends_step_next l side
  · have hKept : (a.step l).kept side = a.kept side :=
      funext fun k => hOther k fun step => hNot (.call k step)
    change Duplex.BooksOf ((a.duplex.step l).ends side) _
    rw [hSame, hKept]
    exact hInv side
  · change Duplex.BooksOf ((a.duplex.step l).ends side) _
    rw [hNext]
    refine Duplex.booksOf_next (hInv side) ?_ fun k hNot => ?_
    · intro i step hLabel
      have hAct := (hIff _).mpr hLabel
      subst hAct
      exact if_pos ⟨rfl, rfl⟩
    · exact hOther k fun step hAct => hNot step ((hIff _).mp hAct)

theorem inv_start : ({} : Audited).Inv := by
  intro side k
  cases side <;> rfl

theorem run_duplex (labels : List DuplexLabel) (a : Audited) :
    (run step a labels).duplex = run Duplex.step a.duplex labels := by
  induction labels generalizing a with
  | nil => rfl
  | cons l labels ih => exact ih _

end Audited

namespace Duplex

/-- The client opens two streams, and the server accepts them. -/
def openTwo : List DuplexLabel :=
  [.act .client (.openStream none), .act .client (.openStream none), .act .client (.sendOpen 0),
    .act .client (.sendOpen 1), .write .client, .write .client, .receive .server,
    .act .server .resume, .receive .server, .act .server .resume, .act .server .accept,
    .act .server .accept]

/-- The ids of the two streams and their places. -/
def twoEntries : HashMap Nat Nat :=
  AList.insert 3 1 (AList.insert 1 0 ∅)

/-- The largest chunk. -/
def fullChunk : List UInt8 :=
  List.replicate maxFramePayload 0

/-- Stream 1 of the client after `k` chunks, and of the server. -/
def consumer (k : Nat) : Handle :=
  { stream := { id := 1, consumedAccum := k * maxFramePayload }
    received := List.replicate (k * maxFramePayload) 0 }

def producer (k : Nat) : Handle :=
  { stream := { id := 1, peerCredit := defaultStreamWindow - k * maxFramePayload }
    wrote := List.replicate (k * maxFramePayload) 0 }

/-- The client, with its queue full of frames of stream 3. -/
def congested (k : Nat) : Connection :=
  { Connection.spawn .client with
    handles :=
      [consumer k,
        { stream := { id := 3, peerCredit := defaultStreamWindow - outboundQueue }
          wrote := List.replicate outboundQueue 0 }]
    table := twoEntries
    outbound := List.replicate outboundQueue (.data 3 [0])
    nextLocalId := 5 }

def exhausting (k : Nat) : Connection :=
  { Connection.spawn .server with
    handles := [producer k, { stream := { id := 3 } }]
    table := twoEntries }

theorem run_openTwo :
    run step start openTwo =
      pair { Connection.spawn .client with
             handles := [{ stream := { id := 1 } }, { stream := { id := 3 } }]
             table := twoEntries, nextLocalId := 5 } (exhausting 0) [] [] := by
  rw [eq_pair (run step start openTwo)]
  rfl

theorem run_fill :
    run step start (openTwo ++ (Connection.fillCalls 1 outboundQueue).map (.act .client)) =
      pair (congested 0) (exhausting 0) [] [] := by
  rw [run_append, run_openTwo, run_act_client,
    Connection.run_fillCalls (h := { stream := { id := 3 } }) rfl rfl rfl rfl rfl rfl
      (by decide) (by decide)]
  rfl

/-- The server writes a chunk, and the client reads it. -/
def chunkRound : List DuplexLabel :=
  (Connection.writeCalls 0 fullChunk).map (.act .server) ++
    [.write .server, .receive .client, .act .client .resume] ++
    (Connection.readCalls 0 maxFramePayload).map (.act .client)

theorem length_fullChunk : fullChunk.length = maxFramePayload :=
  List.length_replicate

theorem fullChunk_ne_nil : fullChunk ≠ [] :=
  List.ne_nil_of_length_pos (by rw [length_fullChunk]; decide)

theorem replicate_append_fullChunk (k : Nat) :
    List.replicate (k * maxFramePayload) 0 ++ fullChunk =
      List.replicate ((k + 1) * maxFramePayload) 0 := by
  rw [fullChunk, ← List.replicate_add, Nat.succ_mul]

/-- A connection writes the next chunk of its stream. -/
theorem run_writeChunk {c : Connection} {i k : Nat} (hk : k < 16)
    (hGet : c.handles[i]? = some (producer k)) (hDead : c.dead = false)
    (hQueue : c.queue = .queued) :
    run Connection.act c (Connection.writeCalls i fullChunk) =
      (c.setHandle i (producer (k + 1))).enqueue [.data 1 fullChunk] := by
  have hCredit : fullChunk.length ≤ defaultStreamWindow - k * maxFramePayload := by
    rw [length_fullChunk]
    simp only [maxFramePayload, defaultStreamWindow]
    omega
  have hLeft : defaultStreamWindow - k * maxFramePayload - maxFramePayload =
      defaultStreamWindow - (k + 1) * maxFramePayload := by
    rw [Nat.sub_sub, Nat.succ_mul]
  rw [Connection.run_writeCalls hGet rfl rfl rfl hDead hQueue fullChunk_ne_nil
    (by rw [length_fullChunk]) hCredit]
  simp only [producer, Stream.debit, length_fullChunk, hLeft, replicate_append_fullChunk]
  rfl

theorem run_readChunk (k : Nat) :
    run Connection.act (((congested k).receive (.data 1 fullChunk)).resume)
      (Connection.readCalls 0 maxFramePayload) = congested (k + 1) := by
  have hFull : (congested k).queue = .full := by
    simp [Connection.queue, congested, Connection.spawn]
  have hSum : k * maxFramePayload + maxFramePayload = (k + 1) * maxFramePayload :=
    (Nat.succ_mul ..).symm
  have hDeliver : ((congested k).receive (.data 1 fullChunk)).resume =
      (congested k).setHandle 0 { consumer k with stream := (consumer k).stream.push fullChunk } :=
    Connection.resume_onData rfl rfl rfl rfl (by simp [consumer])
      (by simp [consumer, inboundChunkQueue])
  have hInbound : ((consumer k).stream.push fullChunk).inbound = [fullChunk] := rfl
  have hLeft : ¬ ((consumer k).stream.push fullChunk).HasLeftover := by
    simp [Stream.HasLeftover, Stream.push, consumer]
  rw [hDeliver, Connection.run_readCalls_full
    (h := { consumer k with stream := (consumer k).stream.push fullChunk })
    (Connection.get_setHandle rfl _) rfl hInbound hLeft (by rw [length_fullChunk]) fullChunk_ne_nil
    (by rw [Connection.queue_setHandle, hFull]), Connection.setHandle_setHandle]
  simp only [Stream.push, consumer, length_fullChunk, replicate_append_fullChunk, hSum]
  rfl

theorem run_chunkRound {k : Nat} (hk : k < 16) :
    run step (pair (congested k) (exhausting k) [] []) chunkRound =
      pair (congested (k + 1)) (exhausting (k + 1)) [] [] := by
  have hSent : ((exhausting (k + 1)).enqueue [.data 1 fullChunk]).write =
      some (.data 1 fullChunk, exhausting (k + 1)) := rfl
  have hResume (c s : Connection) : (pair c s [] []).step (.act .client .resume) =
      pair c.resume s [] [] := eq_pair _
  have hWrite : run Connection.act (exhausting k) (Connection.writeCalls 0 fullChunk) =
      (exhausting (k + 1)).enqueue [.data 1 fullChunk] := run_writeChunk hk rfl rfl rfl
  rw [chunkRound, run_append, run_append, run_act_server, hWrite, run_cons, run_cons, run_cons,
    run_nil, step_write_server hSent, List.nil_append, step_receive_client rfl, hResume,
    run_act_client, run_readChunk]

theorem run_chunkRounds {n : Nat} (hn : n ≤ 16) :
    run step (pair (congested 0) (exhausting 0) [] []) (List.replicate n chunkRound).flatten =
      pair (congested n) (exhausting n) [] [] := by
  induction n with
  | zero => rfl
  | succ n ih =>
    rw [List.replicate_succ', List.flatten_append, List.flatten_singleton, run_append,
      ih (by omega), run_chunkRound (by omega)]

end Duplex

end WaitAgent.Mux
