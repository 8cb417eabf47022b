import WaitAgent.Mux.Endpoint
import WaitAgent.Verified.Segments

/-!
# Streams are byte pipes

What is written to a stream on one end, and what has arrived on the other end or is under
way to it, is the same sequence of bytes.  An id can be used again once its stream is
closed on both sides; so the streams with one id are taken together, in the order in which
they were made, with a mark where each of them ends.  The `Close` frames carry the marks.
-/

namespace WaitAgent.Mux

open Verified

/-- What a frame says about the streams with the id `s`. -/
def Frame.tokens (s : Nat) : Frame → List (Token UInt8)
  | .data streamId payload => if streamId = s then payload.map .item else []
  | .close streamId => if streamId = s then [.fin] else []
  | _ => []

/-- The same for a frame that a step takes from the peer. -/
def EndLabel.tokens (s : Nat) : EndLabel → List (Token UInt8)
  | .receive frame => frame.tokens s
  | _ => []

/-- The chunk in the hand of the reader, when the streams have the ids `ids`. -/
def Reader.tokens (ids : List Nat) (s : Nat) : Reader → List (Token UInt8)
  | .delivering i payload => if ids[i]? = some s then payload.map .item else []
  | _ => []

namespace Handle

/-- All that this end has sent. -/
def sent (h : Handle) : List (Token UInt8) :=
  Token.piece h.wrote h.closedOut

/-- All that has come to this end. -/
def got (h : Handle) : List (Token UInt8) :=
  Token.piece h.arrived h.stream.peerFin

/-- The handles with the id `s`. -/
def withId (s : Nat) (h : Handle) : Bool :=
  h.id = s

end Handle

/-- The streams with the id `s`, in the order in which they were made. -/
def Connection.streamsOf (c : Connection) (s : Nat) : List Handle :=
  c.handles.filter (Handle.withId s)

namespace View

variable (v : View) (s : Nat)

def sentTokens : List (Token UInt8) :=
  (v.handles.filter (Handle.withId s)).flatMap Handle.sent

def gotTokens : List (Token UInt8) :=
  (v.handles.filter (Handle.withId s)).flatMap Handle.got

/-- In the hand of the reader. -/
def handTokens : List (Token UInt8) :=
  v.reader.tokens (v.handles.map Handle.id) s

def queueTokens : List (Token UInt8) :=
  v.outbound.flatMap (Frame.tokens s)

end View

namespace Connection

variable {c : Connection} {l : EndLabel} {v : View} {s : Nat}

variable {h h' : Handle} {i : Nat}

theorem withId_eq (hId : h'.id = h.id) : h'.withId s = h.withId s := by
  simp [Handle.withId, hId]

theorem sent_same (hGet : c.handles[i]? = some h) (hId : h'.id = h.id) (hSent : h'.sent = h.sent) :
    ((c.handles.set i h').filter (Handle.withId s)).flatMap Handle.sent = c.view.sentTokens s :=
  flatMap_filter_set_same hGet (withId_eq hId) fun _ => hSent

theorem got_same (hGet : c.handles[i]? = some h) (hId : h'.id = h.id) (hGot : h'.got = h.got) :
    ((c.handles.set i h').filter (Handle.withId s)).flatMap Handle.got = c.view.gotTokens s :=
  flatMap_filter_set_same hGet (withId_eq hId) fun _ => hGot

/-- A stream with an entry is the last one with its id. -/
theorem last_of_entry (hInv : c.view.Inv) {h : Handle} (hEntry : c.table.lookup h.id = some i)
    (j : Nat) (g : Handle) (hGet : c.handles[j]? = some g) (hId : g.withId h.id = true) :
    j ≤ i := by
  have hAt : (c.handles.map Handle.id)[j]? = some h.id := by
    rw [List.getElem?_map, hGet, Option.map_some, of_decide_eq_true hId]
  exact (hInv.indexed h.id i hEntry).2 j hAt

/-- What a stream with an entry adds to its tokens comes last among those of its id. -/
theorem grows {f : Handle → List (Token UInt8)} (hInv : c.view.Inv) (hGet : c.handles[i]? = some h)
    (hEntry : c.table.lookup h.id = some i) {more : List (Token UInt8)} (hMore : f h' = f h ++ more)
    (hId : h'.id = h.id) :
    ((c.handles.set i h').filter (Handle.withId s)).flatMap f =
      (c.handles.filter (Handle.withId s)).flatMap f ++ if h.id = s then more else [] := by
  by_cases hOwn : h.id = s
  · subst hOwn
    rw [if_pos rfl]
    exact flatMap_filter_set_grows hGet (by simp [Handle.withId, hId]) (by simp [Handle.withId])
      (last_of_entry hInv hEntry) hMore
  · rw [if_neg hOwn, List.append_nil]
    exact flatMap_filter_set_same hGet (withId_eq hId) fun hKind =>
      absurd (of_decide_eq_true hKind) hOwn

/-- A live end of a link between nodes. -/
structure NodeEnd (c : Connection) : Prop where
  live : c.Live
  inv : c.view.Inv
  liveInv : c.view.LiveInv
  mode_eq : c.mode = .nodeToNode
  reset_eq : ∀ h ∈ c.handles, h.stream.reset = false

/-- On a link between nodes a stream that is still open has its entry. -/
theorem NodeEnd.entry_of_open (hEnd : c.NodeEnd) {h : Handle} (hGet : c.handles[i]? = some h)
    (hOpen : h.stream.finSent = false ∨ h.stream.peerFin = false) :
    c.table.lookup h.id = some i := by
  rcases hEnd.liveInv.listed i h hGet with hEntry | ⟨hFin, hPeer⟩ | hTorn
  · exact hEntry
  · rcases hOpen with hNot | hNot
    · exact absurd (hFin.symm.trans hNot) (by decide)
    · exact absurd (hPeer.symm.trans hNot) (by decide)
  · exact absurd (hTorn.symm.trans (hEnd.reset_eq h (List.mem_of_getElem? hGet))) (by decide)

theorem tokens_opens (s streamId : Nat) (target : Option String) :
    Frame.tokens s (openFrame streamId target) = [] := by
  cases target <;> rfl

/-- A call that queues a frame of its stream. -/
theorem NodeEnd.sent_call (hEnd : c.NodeEnd) {ctx : Context} {step : CallStep}
    {frame : Option Frame} (hGet : c.handles[i]? = some h) (hQueue : ctx.queue ≠ .closed)
    (hTook : Handle.Took ctx h step h' frame) (s : Nat) :
    ∃ more, ((c.handles.set i h').filter (Handle.withId s)).flatMap Handle.sent =
        c.view.sentTokens s ++ more ∧
      (c.outbound ++ frame.toList).flatMap (Frame.tokens s) = c.view.queueTokens s ++ more := by
  have hInv := hEnd.inv
  have hProper := hInv.proper h (List.mem_of_getElem? hGet)
  obtain ⟨hSame, hWrote⟩ := Handle.took_same hProper hTook
  have hEntry (hOpen : h.closedOut = false) : c.table.lookup h.id = some i :=
    hEnd.entry_of_open hGet (Or.inl (Bool.or_eq_false_iff.mp hOpen).1)
  have hOutput := Handle.took_output hProper hQueue hTook
  cases hOutput with
  | quiet hClosed =>
    have hSent : h'.sent = h.sent := by
      rw [Handle.sent, Handle.sent, hWrote, hClosed]
      simp
    exact ⟨[], by rw [sent_same hGet hSame.id_eq hSent, List.append_nil],
      by simp [View.queueTokens]⟩
  | data payload _ hOpen hStays =>
    have hSent : h'.sent = h.sent ++ payload.map .item := by
      rw [Handle.sent, Handle.sent, hWrote, hOpen, hStays, ← Token.piece_append]
      simp [Frame.bytes]
    exact ⟨_, grows hInv hGet (hEntry hOpen) hSent hSame.id_eq,
      by simp [View.queueTokens, Frame.tokens]⟩
  | close hOpen hCloses =>
    have hSent : h'.sent = h.sent ++ [.fin] := by
      rw [Handle.sent, Handle.sent, hWrote, hOpen, hCloses, ← Token.piece_close]
      simp [Frame.bytes]
    exact ⟨_, grows hInv hGet (hEntry hOpen) hSent hSame.id_eq,
      by simp [View.queueTokens, Frame.tokens]⟩
  | window delta _ hClosed =>
    have hSent : h'.sent = h.sent := by
      rw [Handle.sent, Handle.sent, hWrote, hClosed]
      simp [Frame.bytes]
    exact ⟨[], by rw [sent_same hGet hSame.id_eq hSent, List.append_nil],
      by simp [View.queueTokens, Frame.tokens]⟩

/-- A new stream has no bytes. -/
theorem flatMap_new {f : Handle → List (Token UInt8)} {id : Nat} {call : Call}
    (hNone : f (newHandle id call) = []) (s : Nat) :
    ((c.handles ++ [newHandle id call]).filter (Handle.withId s)).flatMap f =
      (c.handles.filter (Handle.withId s)).flatMap f := by
  rw [List.filter_append, List.flatMap_append, List.filter_singleton]
  cases Handle.withId s (newHandle id call) <;> simp [hNone]

theorem NodeEnd.next (hEnd : c.NodeEnd) (hLive : (c.next l).Live) : (c.next l).NodeEnd where
  live := hLive
  inv := inv_next hEnd.inv l
  liveInv := (move_next c l).liveInv hEnd.inv hEnd.liveInv hLive.1 hLive.2
  mode_eq := (move_next c l).mode_eq.trans hEnd.mode_eq
  reset_eq := (move_next c l).reset_eq hEnd.inv hEnd.mode_eq hEnd.reset_eq

/-- What a step adds to what is sent, it adds to the queue. -/
theorem Move.sent_queue (hMove : Move c l v) (hEnd : c.NodeEnd) (hDead : v.dead = false)
    (hWrite : l ≠ .write) (s : Nat) :
    ∃ more, v.sentTokens s = c.view.sentTokens s ++ more ∧
      v.queueTokens s = c.view.queueTokens s ++ more := by
  have hQuiet {v : View} (hSent : v.sentTokens s = c.view.sentTokens s)
      (hQueue : v.queueTokens s = c.view.queueTokens s) :
      ∃ more, v.sentTokens s = c.view.sentTokens s ++ more ∧
        v.queueTokens s = c.view.queueTokens s ++ more :=
    ⟨[], by rw [hSent, List.append_nil], by rw [hQueue, List.append_nil]⟩
  have hCall {h : Handle} {call : Call} (hOld : h.call ≠ .finishing) (hNew : call ≠ .finishing) :
      ({ h with call } : Handle).sent = h.sent := by
    simp [Handle.sent, Handle.closedOut, hOld, hNew]
  cases hMove with
  | @call i h step hAt =>
    exact hEnd.sent_call hAt (queue_ne_closed hEnd.inv hEnd.live)
      (Handle.took_step (c.context i h) h step) s
  | @announces i h frame hAt hOpening =>
    -- the frame of a new stream carries no bytes
    have hOk := (hEnd.inv.proper h (List.mem_of_getElem? hAt)).callOk
    unfold Handle.CallOk at hOk
    rw [hOpening] at hOk
    obtain ⟨target, rfl⟩ := hOk
    refine hQuiet (sent_same hAt rfl (hCall (by simp [hOpening]) (by simp))) ?_
    simp [View.queueTokens, tokens_opens]
  | unannounced _ _ hQueue => exact absurd hQueue (queue_ne_closed hEnd.inv hEnd.live)
  | cancels hAt hOpening =>
    exact hQuiet (sent_same hAt rfl (hCall (by simp [hOpening]) (by simp))) rfl
  | accepts hAt hArriving =>
    exact hQuiet (sent_same hAt rfl (hCall (by simp [hArriving]) (by simp))) rfl
  | opens | inbound => exact hQuiet (flatMap_new rfl s) rfl
  | collides => cases hDead
  | closes _ hLookup => exact hQuiet (sent_same (lookup_eq_some hLookup).2 rfl rfl) rfl
  | window _ hLookup hGrant =>
    rw [Stream.grant_eq hGrant]
    exact hQuiet (sent_same (lookup_eq_some hLookup).2 rfl rfl) rfl
  | tearsDown _ _ hRelay => simp [hEnd.mode_eq] at hRelay
  | controls hRelay => simp [hEnd.mode_eq] at hRelay
  | pushes _ hAt => exact hQuiet (sent_same hAt rfl rfl) rfl
  | sends => exact absurd rfl hWrite
  | _ => exact hQuiet rfl rfl

/-- A busy reader keeps what it has in its hand. -/
theorem hand_append (hInv : c.view.Inv) (id : Nat) (call : Call) (s : Nat) :
    c.reader.tokens ((c.handles ++ [newHandle id call]).map Handle.id) s = c.view.handTokens s := by
  unfold View.handTokens
  change c.reader.tokens _ s = c.reader.tokens (c.handles.map Handle.id) s
  cases hReader : c.reader with
  | delivering i payload =>
    have hLt : i < (c.handles.map Handle.id).length := by
      rw [List.length_map]
      exact hInv.reader i (by simp [hReader, Reader.stream])
    simp only [Reader.tokens, List.map_append]
    rw [List.getElem?_append_left hLt]
  | _ => rfl

theorem hand_set (hGet : c.handles[i]? = some h) (hReader : v.reader = c.reader)
    (hHandles : v.handles = c.handles.set i h') (hId : h'.id = h.id) (s : Nat) :
    v.handTokens s = c.view.handTokens s := by
  rw [View.handTokens, hReader, hHandles, map_set_eq hGet Handle.id hId]
  rfl

/-- What a step takes from the peer arrives, or is in the hand of the reader. -/
theorem Move.got_hand (hMove : Move c l v) (hEnd : c.NodeEnd) (hDead : v.dead = false)
    (hStopped : v.reader ≠ .stopped)
    (hIdle : ∀ frame, l = .receive frame → c.reader = .idle) (s : Nat) :
    v.gotTokens s ++ v.handTokens s =
      c.view.gotTokens s ++ c.view.handTokens s ++ l.tokens s := by
  have hQuiet {v : View} (hTokens : l.tokens s = []) (hGot : v.gotTokens s = c.view.gotTokens s)
      (hHand : v.handTokens s = c.view.handTokens s) : v.gotTokens s ++ v.handTokens s =
        c.view.gotTokens s ++ c.view.handTokens s ++ l.tokens s := by
    rw [hTokens, hGot, hHand, List.append_nil]
  have hInv := hEnd.inv
  cases hMove with
  | stay _ hBusy =>
    cases l with
    | receive frame => exact absurd (hIdle frame rfl) (hBusy frame rfl)
    | act action => exact hQuiet rfl rfl rfl
    | write => exact hQuiet rfl rfl rfl
  | @call i h step hAt =>
    have hSame := (Handle.took_same (hInv.proper h (List.mem_of_getElem? hAt))
      (Handle.took_step (c.context i h) h step)).1
    have hGot : (h.step (c.context i h) step).1.got = h.got := by
      rw [Handle.got, Handle.got, hSame.arrived_eq, hSame.peerFin_eq]
    exact hQuiet rfl (got_same hAt hSame.id_eq hGot) (hand_set hAt rfl rfl hSame.id_eq s)
  | announces hAt | cancels hAt | accepts hAt =>
    exact hQuiet rfl (got_same hAt rfl rfl) (hand_set hAt rfl rfl (by rfl) s)
  | unannounced _ _ hQueue => exact absurd hQueue (queue_ne_closed hEnd.inv hEnd.live)
  | opens => exact hQuiet rfl (flatMap_new rfl s) (hand_append hInv _ _ s)
  | collides | fails => cases hDead
  | quits => exact absurd rfl hStopped
  | sends => exact hQuiet rfl rfl rfl
  | controls hRelay | tearsDown _ _ hRelay | passesOver _ hRelay | forwards _ _ hRelay =>
    simp [hEnd.mode_eq] at hRelay
  | resumes hReader =>
    refine hQuiet rfl rfl ?_
    rcases hReader with ⟨i, hReader⟩ | ⟨frame, lost, hReader⟩ <;>
      simp [View.handTokens, hReader, Reader.tokens]
  | inbound hReader _ hFrame =>
    rcases hFrame with ⟨rfl, -⟩ | ⟨-, hRelay⟩
    · refine hQuiet rfl (flatMap_new rfl s) ?_
      simp [View.handTokens, hReader, Reader.tokens]
    · simp [hEnd.mode_eq] at hRelay
  | window hReader hLookup hGrant =>
    rw [Stream.grant_eq hGrant]
    exact hQuiet rfl (got_same (lookup_eq_some hLookup).2 rfl rfl)
      (hand_set (lookup_eq_some hLookup).2 rfl rfl (by rfl) s)
  | @data streamId i h payload hReader hLookup =>
    have hHand : View.handTokens { c.view with reader := .delivering i payload } s =
        if streamId = s then payload.map .item else [] := by
      simp only [View.handTokens, Reader.tokens,
        (hInv.indexed streamId i (lookup_eq_some hLookup).1).1, Option.some.injEq]
    rw [hHand, View.handTokens, view_reader, hReader]
    simp [Reader.tokens, EndLabel.tokens, Frame.tokens, View.gotTokens]
  | @closes streamId i h hReader hLookup hOpen =>
    obtain ⟨hEntry, hGet⟩ := lookup_eq_some hLookup
    obtain ⟨own, hOwn, hId⟩ := get_of_entry hInv hEntry
    cases hGet.symm.trans hOwn
    subst hId
    have hGot : ({ h with stream := h.stream.setPeerFin } : Handle).got = h.got ++ [.fin] := by
      rw [Handle.got, Handle.got, hOpen, ← Token.piece_close]
      rfl
    have hGrows := grows (f := Handle.got) (s := s) hInv hGet hEntry hGot rfl
    simp only [View.gotTokens, View.handTokens, view_reader, hReader, Reader.tokens,
      List.append_nil, EndLabel.tokens, Frame.tokens]
    exact hGrows
  | @pushes i payload h hReader hAt =>
    obtain ⟨own, hOwn, hEntry, hOpen⟩ := hEnd.liveInv.delivering i payload hReader
    cases hAt.symm.trans hOwn
    have hGot : ({ h with stream := h.stream.push payload } : Handle).got =
        h.got ++ payload.map .item := by
      rw [Handle.got, Handle.arrived_push, Handle.got, hOpen, ← Token.piece_append]
      exact congrArg _ hOpen
    have hGrows := grows (f := Handle.got) (s := s) hInv hAt hEntry hGot rfl
    have hId : (c.handles.map Handle.id)[i]? = some h.id := by
      rw [List.getElem?_map, hAt, Option.map_some]
    simp only [View.gotTokens, View.handTokens, view_reader, hReader, Reader.tokens,
      List.append_nil, EndLabel.tokens, view_handles, hId, Option.some.injEq]
    exact hGrows
  | closed hReader hAt =>
    refine hQuiet rfl rfl ?_
    simp [View.handTokens, hReader, Reader.tokens]

end Connection

namespace Duplex

/-- A step `e` of one end, which takes the frames `ins` off the wire and puts `outs` on it. -/
structure Exchange (d d' : Duplex) (side : Side) (e : EndLabel) (ins outs : List Frame) : Prop where
  self : d'.ends side = (d.ends side).next e
  other : d'.ends side.other = d.ends side.other
  taken : d.wire side.other = ins ++ d'.wire side.other
  put : d'.wire side = d.wire side ++ outs

inductive Passes (d : Duplex) : DuplexLabel → Duplex → Prop where
  | stays (l : DuplexLabel) : Passes d l d
  | acts {d' : Duplex} {side : Side} {action : Connection.Action}
      (hEx : Exchange d d' side (.act action) [] []) : Passes d (.act side action) d'
  | writes {d' : Duplex} {side : Side} {frame : Frame} {rest : List Frame}
      (hOutbound : (d.ends side).outbound = frame :: rest)
      (hNext : (d.ends side).next .write = { d.ends side with outbound := rest })
      (hEx : Exchange d d' side .write [] [frame]) : Passes d (.write side) d'
  | receives {d' : Duplex} {side : Side} {frame : Frame} (hIdle : (d.ends side).reader = .idle)
      (hEx : Exchange d d' side (.receive frame) [frame] []) : Passes d (.receive side) d'

/-- What a step does, in terms of the end that takes it. -/
theorem passes_step (d : Duplex) (l : DuplexLabel) : Passes d l (d.step l) := by
  cases l with
  | act side action =>
    refine .acts ⟨Function.update_self .., Function.update_of_ne side.other_ne .., rfl, ?_⟩
    exact (List.append_nil _).symm
  | write side =>
    simp only [step]
    cases hWrite : (d.ends side).write with
    | none => exact .stays _
    | some sent =>
      obtain ⟨frame, c⟩ := sent
      have hNext : (d.ends side).next .write = c := by simp only [Connection.next, hWrite]
      unfold Connection.write at hWrite
      split at hWrite
      · next first rest hOutbound =>
        split_ifs at hWrite
        cases hWrite
        refine .writes hOutbound hNext ⟨?_, ?_, ?_, ?_⟩
        · exact (Function.update_self ..).trans hNext.symm
        · exact Function.update_of_ne side.other_ne ..
        · exact (Function.update_of_ne side.other_ne ..).symm
        · exact Function.update_self ..
      · cases hWrite
  | receive side =>
    simp only [step]
    split
    · next frame rest hIdle hWire =>
      refine .receives hIdle ⟨Function.update_self .., Function.update_of_ne side.other_ne ..,
        ?_, ?_⟩
      · dsimp only
        rw [Function.update_self, hWire]
        rfl
      · dsimp only
        rw [List.append_nil, Function.update_of_ne side.other_ne.symm]
    · exact .stays _

/-- Both ends are live. -/
def Alive (d : Duplex) : Prop :=
  ∀ side, (d.ends side).Live

/-- What is under way to a side, for the streams with the id `s`. -/
def underWay (d : Duplex) (side : Side) (s : Nat) : List (Token UInt8) :=
  (d.ends side).view.handTokens s ++ (d.wire side.other).flatMap (Frame.tokens s) ++
    (d.ends side.other).view.queueTokens s

/-- Nothing is lost between two live ends. -/
structure PipeInv (d : Duplex) : Prop where
  ends : ∀ side, (d.ends side).NodeEnd
  balance : ∀ side s, (d.ends side.other).view.sentTokens s =
    (d.ends side).view.gotTokens s ++ d.underWay side s

section

variable {d d' : Duplex} {side : Side} {e : EndLabel} {ins outs : List Frame}

theorem PipeInv.exchange (hPipe : d.PipeInv) (hEx : Exchange d d' side e ins outs)
    (hLive : ((d.ends side).next e).Live)
    (hSent : ∀ s, ∃ more,
      ((d.ends side).next e).view.sentTokens s = (d.ends side).view.sentTokens s ++ more ∧
      outs.flatMap (Frame.tokens s) ++ ((d.ends side).next e).view.queueTokens s =
        (d.ends side).view.queueTokens s ++ more)
    (hGot : ∀ s, ((d.ends side).next e).view.gotTokens s ++
        ((d.ends side).next e).view.handTokens s =
      (d.ends side).view.gotTokens s ++ (d.ends side).view.handTokens s ++
        ins.flatMap (Frame.tokens s)) : d'.PipeInv := by
  refine ⟨fun other => ?_, fun other s => ?_⟩
  · rcases side.eq_or_other other with rfl | rfl
    · rw [hEx.self]
      exact (hPipe.ends _).next hLive
    · rw [hEx.other]
      exact hPipe.ends _
  · have hBefore := hPipe.balance other s
    unfold underWay at hBefore ⊢
    rcases side.eq_or_other other with rfl | rfl
    · -- what comes to this end
      have hGot := hGot s
      rw [hEx.taken, List.flatMap_append] at hBefore
      rw [hEx.self, hEx.other, hBefore]
      simp only [← List.append_assoc] at hGot ⊢
      rw [hGot]
    · -- what goes to the other one
      obtain ⟨more, hMore, hQueue⟩ := hSent s
      rw [Side.other_other] at hBefore ⊢
      rw [hEx.self, hEx.other, hEx.put, hMore, hBefore, List.flatMap_append]
      simp only [List.append_assoc]
      rw [hQueue]

theorem PipeInv.step (hPipe : d.Alive → d.PipeInv) (l : DuplexLabel) (hAlive : (d.step l).Alive) :
    (d.step l).PipeInv := by
  have hPasses := passes_step d l
  revert hAlive hPasses
  generalize d.step l = d'
  intro hAlive hPasses
  -- the end that takes the step was live before it, and the other one is as it was
  have hBefore {side : Side} {e : EndLabel} {ins outs : List Frame}
      (hEx : Exchange d d' side e ins outs) : ((d.ends side).next e).Live ∧ d.PipeInv := by
    have hNext : ((d.ends side).next e).Live := hEx.self ▸ hAlive side
    refine ⟨hNext, hPipe fun other => ?_⟩
    rcases side.eq_or_other other with rfl | rfl
    · exact (Connection.move_next _ e).live hNext.1 hNext.2
    · exact hEx.other ▸ hAlive _
  cases hPasses with
  | stays => exact hPipe hAlive
  | @acts _ side action hEx =>
    obtain ⟨hNext, hPipe⟩ := hBefore hEx
    have hMove := Connection.move_next (d.ends side) (.act action)
    exact hPipe.exchange hEx hNext
      (fun s => hMove.sent_queue (hPipe.ends _) hNext.1 (by simp) s)
      (fun s => hMove.got_hand (hPipe.ends _) hNext.1 hNext.2 (by simp) s)
  | @writes _ side frame rest hOutbound hSends hEx =>
    obtain ⟨hNext, hPipe⟩ := hBefore hEx
    refine hPipe.exchange hEx hNext (fun s => ⟨[], ?_, ?_⟩) (fun s => ?_)
    · rw [hSends, List.append_nil]
      rfl
    · rw [hSends, List.append_nil, List.flatMap_singleton, View.queueTokens, View.queueTokens,
        Connection.view_outbound, Connection.view_outbound, hOutbound, List.flatMap_cons]
    · rw [hSends, List.flatMap_nil, List.append_nil]
      rfl
  | @receives _ side frame hIdle hEx =>
    obtain ⟨hNext, hPipe⟩ := hBefore hEx
    have hMove := Connection.move_next (d.ends side) (.receive frame)
    refine hPipe.exchange hEx hNext
      (fun s => hMove.sent_queue (hPipe.ends _) hNext.1 (by simp) s) (fun s => ?_)
    rw [List.flatMap_singleton]
    exact hMove.got_hand (hPipe.ends _) hNext.1 hNext.2 (fun _ _ => hIdle) s

end

theorem pipeInv_start : start.PipeInv where
  ends side := by
    have hSpawned : (start.ends side).Spawned := Or.inl ⟨side.role, rfl⟩
    exact ⟨by cases side <;> decide, hSpawned.inv, hSpawned.liveInv, rfl, by
      simp [start, Connection.spawn]⟩
  balance side s := rfl

/-- The bytes that are under way to the `k`-th stream with the id `s`.  The marks of the
streams that are closed have arrived; the marks under way belong to those behind them. -/
def inFlight (d : Duplex) (side : Side) (s k : Nat) : List UInt8 :=
  let closed := ((d.ends side).streamsOf s).countP fun h => h.stream.peerFin
  if k < closed then [] else Token.segment (k - closed) (d.underWay side s)

/-- What has arrived at a stream, then what is under way to it, is what was written to it at
the other end. -/
def Pipes (d : Duplex) : Prop :=
  ∀ side s k, ((d.ends side).streamsOf s)[k]?.elim [] Handle.arrived ++ d.inFlight side s k =
    ((d.ends side.other).streamsOf s)[k]?.elim [] Handle.wrote

/-- Only the last of the streams with an id can be open. -/
theorem pairwise_streamsOf {c : Connection} (hEnd : c.NodeEnd) (s : Nat) :
    (c.streamsOf s).Pairwise fun h _ => h.stream.finSent = true ∧ h.stream.peerFin = true := by
  have hAll : c.handles.Pairwise fun g h => g.id = h.id →
      g.stream.finSent = true ∧ g.stream.peerFin = true := by
    rw [List.pairwise_iff_getElem]
    intro i j hi hj hLt hId
    by_contra hOpen
    have hGet : c.handles[i]? = some c.handles[i] := List.getElem?_eq_getElem hi
    have hEntry := hEnd.entry_of_open hGet (by
      rw [not_and_or, Bool.not_eq_true, Bool.not_eq_true] at hOpen
      exact hOpen)
    have hLe := Connection.last_of_entry hEnd.inv hEntry j c.handles[j]
      (List.getElem?_eq_getElem hj) (by simp [Handle.withId, hId])
    omega
  unfold Connection.streamsOf
  refine (hAll.filter _).imp_of_mem fun {g h} hg hh hClosed => hClosed ?_
  have hgId := of_decide_eq_true (List.mem_filter.mp hg).2
  have hhId := of_decide_eq_true (List.mem_filter.mp hh).2
  exact hgId.trans hhId.symm

theorem PipeInv.pipes {d : Duplex} (hPipe : d.PipeInv) : d.Pipes := by
  intro side s k
  have hSender := (pairwise_streamsOf (hPipe.ends side.other) s).imp
    (S := fun h _ => h.closedOut = true) fun hClosed => by simp [Handle.closedOut, hClosed.1]
  have hReceiver := (pairwise_streamsOf (hPipe.ends side) s).imp
    (S := fun (h _ : Handle) => h.stream.peerFin = true) And.right
  have hWrote := Token.segment_pieces Handle.wrote Handle.closedOut [] _ hSender k
  have hArrived := Token.segment_pieces Handle.arrived (fun h => h.stream.peerFin)
    (d.underWay side s) _ hReceiver k
  have hBalance : ((d.ends side.other).streamsOf s).flatMap
      (fun h => Token.piece h.wrote h.closedOut) ++ [] =
      ((d.ends side).streamsOf s).flatMap (fun h => Token.piece h.arrived h.stream.peerFin) ++
        d.underWay side s := by
    rw [List.append_nil]
    exact hPipe.balance side s
  rw [hBalance, hArrived] at hWrote
  simp only [Token.segment_nil, ite_self, List.append_nil] at hWrote
  exact hWrote

/-- The streams of two ends are byte pipes in every run, as long as both ends are live. -/
theorem streams_are_pipes (labels : List DuplexLabel) :
    Always step (fun d => d.Alive → d.Pipes) start labels := by
  rw [always_iff]
  intro taken _ hAlive
  have hPipe : (run step start taken).Alive → (run step start taken).PipeInv :=
    run_invariant (I := fun d => d.Alive → d.PipeInv) (fun _ l hPipe => PipeInv.step hPipe l)
      taken start fun _ => pipeInv_start
  exact (hPipe hAlive).pipes

/-- A chunk behind the frame that opens its stream. -/
example : (run step start
    ([.openStream none, .sendOpen 0, .call 0 (.write [1, 2, 3]), .call 0 .plan,
      .call 0 .send].map (.act .client) ++ [.write .client, .receive .server])).inFlight
        .server 1 0 = [1, 2, 3] := by
  decide

end Duplex

end WaitAgent.Mux
