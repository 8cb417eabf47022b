import WaitAgent.Mux.Frame
import WaitAgent.Verified.HashMap

/-!
# Routed streams

A routed stream is a pair of legs, one for each direction, with its own id on either link.
The table is behind a mutex, and each function below is one critical section.  What the
dispatch loop sends afterwards stands beside the new table: a link and a frame for it.

The queue that a leg holds is the one of the link of its peer.  A send on it fails only
after the consumer of that link has ended, which is after the last sender is gone, so the
answers "peer link closed" and "target link closed during open" do not occur.
-/

namespace WaitAgent.Relay

open Verified Mux

/-- A link, and a stream as it is known there. -/
structure RouteKey where
  connectionId : Nat
  streamId : Nat
  deriving DecidableEq

structure RouteLeg where
  /-- The opposite endpoint. -/
  peer : RouteKey
  /-- A half-close has come from this side. -/
  closed : Bool := false
  deriving DecidableEq

abbrev RoutingTable := HashMap RouteKey RouteLeg

inductive Lookup where
  | opened (leg : RouteLeg)
  | closed
  | unknown
  deriving DecidableEq

inductive CloseOutcome where
  | forward (leg : RouteLeg)
  | swallow
  | unknown
  deriving DecidableEq

namespace RoutingTable

/-- `open`: both legs of a new stream. -/
def openRoute (t : RoutingTable) (source target : RouteKey) : RoutingTable :=
  (t.insert source { peer := target }).insert target { peer := source }

def lookupLeg (t : RoutingTable) (key : RouteKey) : Lookup :=
  match t.lookup key with
  | some leg => if leg.closed then .closed else .opened leg
  | none => .unknown

/-- The pair goes once both legs are closed, or if the peer has none. -/
def closeLeg (t : RoutingTable) (key : RouteKey) : CloseOutcome × RoutingTable :=
  match t.lookup key with
  | none => (.unknown, t)
  | some leg =>
      if leg.closed then (.swallow, t)
      else
        let marked := t.insert key { leg with closed := true }
        let peerClosed := ((marked.lookup leg.peer).map RouteLeg.closed).getD true
        (.forward { leg with closed := true },
          if peerClosed then (marked.erase key).erase leg.peer else marked)

def teardownPair (t : RoutingTable) (key : RouteKey) : Option RouteLeg × RoutingTable :=
  match t.lookup key with
  | none => (none, t)
  | some leg => (some leg, (t.erase key).erase leg.peer)

/-- The routes of these keys go one after another; the peers are told. -/
def teardownKeys (t : RoutingTable) : List RouteKey → List RouteKey × RoutingTable
  | [] => ([], t)
  | key :: keys =>
      match t.teardownPair key with
      | (none, t) => t.teardownKeys keys
      | (some leg, t) => ((leg.peer :: (t.teardownKeys keys).1), (t.teardownKeys keys).2)

/-- The keys of a link. -/
def keysOf (t : RoutingTable) (connectionId : Nat) : List RouteKey :=
  t.keys.filter fun key => key.connectionId = connectionId

/-- Two legs make a stream. -/
def streamCount (t : RoutingTable) : Nat :=
  t.keys.length / 2

section

variable {t : RoutingTable} {key : RouteKey} {leg : RouteLeg}

/-! ### Routes that go -/

/-- Routes go or are closed, and none is new. -/
def Shrinks (t t' : RoutingTable) : Prop :=
  ∀ key leg', t'.lookup key = some leg' →
    ∃ leg, t.lookup key = some leg ∧ leg.peer = leg'.peer ∧
      (leg.closed = true → leg'.closed = true)

theorem Shrinks.refl (t : RoutingTable) : Shrinks t t :=
  fun _ leg hLeg => ⟨leg, hLeg, rfl, id⟩

theorem Shrinks.trans {t' t'' : RoutingTable} (h : Shrinks t t') (h' : Shrinks t' t'') :
    Shrinks t t'' := by
  intro key last hLast
  obtain ⟨next, hNext, hPeer, hClosed⟩ := h' key last hLast
  obtain ⟨leg, hLeg, hPeer', hClosed'⟩ := h key next hNext
  exact ⟨leg, hLeg, hPeer'.trans hPeer, fun hFirst => hClosed (hClosed' hFirst)⟩

theorem shrinks_erase (t : RoutingTable) (key : RouteKey) : Shrinks t (t.erase key) := by
  intro k leg hLeg
  exact ⟨leg, (AList.lookup_of_erase hLeg).2, rfl, id⟩

theorem shrinks_teardownPair (t : RoutingTable) (key : RouteKey) :
    Shrinks t (t.teardownPair key).2 := by
  unfold teardownPair
  split
  · exact .refl t
  · exact (shrinks_erase t key).trans (shrinks_erase _ _)

theorem shrinks_teardownKeys (t : RoutingTable) (keys : List RouteKey) :
    Shrinks t (t.teardownKeys keys).2 := by
  induction keys generalizing t with
  | nil => exact .refl t
  | cons key keys ih =>
    have hPair := shrinks_teardownPair t key
    unfold teardownKeys
    split
    · next hTorn =>
      rw [hTorn] at hPair
      exact hPair.trans (ih _)
    · next hTorn =>
      rw [hTorn] at hPair
      exact hPair.trans (ih _)

/-- A close that is forwarded is the first, and the route does not take another frame. -/
theorem of_closeLeg_forward (hOutcome : (t.closeLeg key).1 = .forward leg) :
    (∃ old, t.lookup key = some old ∧ old.closed = false ∧ leg.peer = old.peer) ∧
      ∀ leg', (t.closeLeg key).2.lookup key = some leg' → leg'.closed = true := by
  unfold closeLeg at hOutcome ⊢
  split at hOutcome
  · cases hOutcome
  · next old hLeg =>
    split_ifs at hOutcome ⊢ with hClosed
    cases hOutcome
    refine ⟨⟨old, hLeg, by simpa using hClosed, rfl⟩, fun leg' hLeg' => ?_⟩
    dsimp only at hLeg'
    split_ifs at hLeg'
    · rw [AList.lookup_erase_eq_ite, AList.lookup_erase_eq_ite, if_pos rfl, ite_self] at hLeg'
      cases hLeg'
    · rw [AList.lookup_insert_eq_ite, if_pos rfl] at hLeg'
      cases hLeg'
      rfl

end

end RoutingTable

/-! ## Dispatch -/

/-- A frame, and the link that it is for. -/
structure Parcel where
  connectionId : Nat
  frame : Frame
  deriving DecidableEq

/-- `send_stream_error`, to the link that the frame came from. -/
def streamError (key : RouteKey) (code : RelayErrorCode) (message : String) : Parcel :=
  { connectionId := key.connectionId, frame := .error key.streamId code.wireValue message }

/-- To the other end of a leg, under the id that the stream has there. -/
def RouteLeg.parcel (leg : RouteLeg) (build : Nat → Frame) : Parcel :=
  { connectionId := leg.peer.connectionId, frame := build leg.peer.streamId }

def forwardRouted (t : RoutingTable) (key : RouteKey) (build : Nat → Frame) : Parcel :=
  match t.lookupLeg key with
  | .opened leg => leg.parcel build
  | .closed => streamError key .streamClosed "stream is closed"
  | .unknown => streamError key .streamUnknown "unknown stream"

def dispatchClose (t : RoutingTable) (key : RouteKey) : RoutingTable × Option Parcel :=
  match t.closeLeg key with
  | (.forward leg, t) => (t, some (leg.parcel .close))
  | (.swallow, t) => (t, none)
  | (.unknown, t) => (t, some (streamError key .streamUnknown "unknown stream"))

def dispatchCloseStream (t : RoutingTable) (key : RouteKey) : RoutingTable × Option Parcel :=
  match t.teardownPair key with
  | (some leg, t) => (t, some (leg.parcel .closeStream))
  | (none, t) => (t, some (streamError key .streamUnknown "unknown stream"))

/-- The arms of `dispatch_loop` for the frames of a stream: the table, and what is sent. -/
def dispatchStream (t : RoutingTable) (connectionId : Nat) : Frame → RoutingTable × Option Parcel
  | .data streamId payload =>
      (t, some (forwardRouted t ⟨connectionId, streamId⟩ fun peer => .data peer payload))
  | .window streamId credit =>
      (t, some (forwardRouted t ⟨connectionId, streamId⟩ fun peer => .window peer credit))
  | .close streamId => dispatchClose t ⟨connectionId, streamId⟩
  | .closeStream streamId => dispatchCloseStream t ⟨connectionId, streamId⟩
  | _ => (t, none)

end WaitAgent.Relay
