import WaitAgent.Node.SharedState
import WaitAgent.Verified.Markers
import WaitAgent.Verified.Utf8

/-!
# Pasted text

`route_paste_text` finds the terminal of a target: one of the node's own, the one of
a shell that it hosts, or the one of a session of a peer.  Only for the first kind it
asks whether the application wants bracketed paste, and only there it puts the
markers around the text.  What the text holds is not looked at.
-/

namespace WaitAgent.Node

open Domain Verified

/-! ## Markers -/

/-- `ESC [ 200 ~`. -/
def pasteStart : Marker UInt8 where
  first := 0x1b
  rest := [0x5b, 0x32, 0x30, 0x30, 0x7e]
  fresh := by decide

/-- `ESC [ 201 ~`. -/
def pasteStop : Marker UInt8 where
  first := 0x1b
  rest := [0x5b, 0x32, 0x30, 0x31, 0x7e]
  fresh := by decide

def wrapBracketedPaste (bytes : List UInt8) : List UInt8 :=
  pasteStart.toList ++ bytes ++ pasteStop.toList

/-! ## Routes -/

/-- The terminal that input is sent to. -/
inductive InputTarget where
  | localSession (target : String)
  | authorityHost (sessionId : String)
  | remoteSession (target : String)
  deriving DecidableEq

/-- Bytes on their way to a terminal. -/
structure TerminalInput where
  target : InputTarget
  bytes : List UInt8
  deriving DecidableEq

namespace SharedState

/-- `feed_remote_session_input`: dropped if there is no viewer for the target. -/
def feedRemoteSessionInput (s : SharedState) (target : String) (bytes : List UInt8) :
    Option TerminalInput :=
  if (s.remoteSessions.lookup target).isSome then some ⟨.remoteSession target, bytes⟩ else none

/-- What is sent for a paste.  `bracketed` says which applications have bracketed paste
on; the terminal emulator of the target knows it. -/
def routePasteText (s : SharedState) (bracketed : String → Bool) (target text : String) :
    Option TerminalInput :=
  match s.sessions.get target with
  | none => none
  | some record =>
      let bytes := utf8Bytes text.toList
      match record.address.transport with
      | .localNode =>
          match s.localSessions.lookup target with
          | some _ =>
              some ⟨.localSession target,
                if bracketed target then wrapBracketedPaste bytes else bytes⟩
          | none => (s.hostSessionIn target).map fun sessionId => ⟨.authorityHost sessionId, bytes⟩
      | .remotePeer => s.feedRemoteSessionInput target bytes

/-- Where a paste into the target goes. -/
def inputTarget (s : SharedState) (target : String) : Option InputTarget :=
  match s.sessions.get target with
  | none => none
  | some record =>
      match record.address.transport with
      | .localNode =>
          if (s.localSessions.lookup target).isSome then some (.localSession target)
          else (s.hostSessionIn target).map .authorityHost
      | .remotePeer =>
          if (s.remoteSessions.lookup target).isSome then some (.remoteSession target) else none

end SharedState

/-- The bytes of a paste into an application that has bracketed paste on. -/
def InputTarget.pasted : InputTarget → List UInt8 → List UInt8
  | .localSession _, bytes => wrapBracketedPaste bytes
  | .authorityHost _, bytes => bytes
  | .remoteSession _, bytes => bytes

/-- What is sent is decided by where it goes: only the node's own terminals get the
markers. -/
theorem SharedState.routePasteText_eq (s : SharedState) {bracketed : String → Bool}
    {target : String} (hOn : bracketed target = true) (text : String) :
    s.routePasteText bracketed target text =
      (s.inputTarget target).map fun input => ⟨input, input.pasted (utf8Bytes text.toList)⟩ := by
  unfold routePasteText inputTarget
  cases s.sessions.get target with
  | none => rfl
  | some record =>
    dsimp only
    cases record.address.transport with
    | localNode =>
      dsimp only
      cases s.localSessions.lookup target with
      | some session =>
        rw [if_pos hOn]
        rfl
      | none =>
        cases s.hostSessionIn target <;> rfl
    | remotePeer =>
      dsimp only [feedRemoteSessionInput]
      cases s.remoteSessions.lookup target <;> rfl

/-! ## Containment -/

/-- The application takes the bytes for one paste, and nothing of them for typed
input. -/
def Contained (bytes : List UInt8) : Prop :=
  Marker.Framed pasteStart pasteStop bytes ∧ Marker.outside pasteStart pasteStop false 0 bytes = []

theorem contained_iff {bytes : List UInt8} :
    Contained bytes ↔ Marker.Framed pasteStart pasteStop bytes :=
  and_iff_left_of_imp Marker.outside_of_framed

theorem contained_wrap_iff {bytes : List UInt8} :
    Contained (wrapBracketedPaste bytes) ↔ ¬pasteStop.toList <:+: bytes := by
  rw [contained_iff, wrapBracketedPaste]
  exact Marker.framed_iff rfl rfl (by decide)

/-- The texts that can be pasted: without a stop marker where the markers are put
around them, and with both markers already there where they are not. -/
def InputTarget.Accepts : InputTarget → String → Prop
  | .localSession _, text => ¬pasteStop.toList <:+: utf8Bytes text.toList
  | .authorityHost _, text => Marker.Framed pasteStart pasteStop (utf8Bytes text.toList)
  | .remoteSession _, text => Marker.Framed pasteStart pasteStop (utf8Bytes text.toList)

theorem contained_pasted_iff (input : InputTarget) (text : String) :
    Contained (input.pasted (utf8Bytes text.toList)) ↔ input.Accepts text := by
  cases input with
  | localSession target => exact contained_wrap_iff
  | authorityHost sessionId => exact contained_iff
  | remoteSession target => exact contained_iff

/-- A paste stays a paste exactly if the terminal it goes to accepts its text. -/
theorem paste_contained_iff (s : SharedState) (bracketed : String → Bool) (target text : String)
    (hOn : bracketed target = true) :
    (∀ input, s.routePasteText bracketed target text = some input → Contained input.bytes) ↔
      ∀ input, s.inputTarget target = some input → input.Accepts text := by
  simp only [s.routePasteText_eq hOn, Option.map_eq_some_iff, forall_exists_index, and_imp,
    forall_apply_eq_imp_iff₂, contained_pasted_iff]

/-- A node with a terminal of its own, `1`, and a shell that it hosts, `2`. -/
def pasteNode : SharedState :=
  let s : SharedState := { port := 7474 }
  { s with
    sessions := (SessionMap.empty.insert (s.localRecord "1" none)).insert (s.localRecord "2" none)
    localSessions := AList.insert (s.localTarget "1") { child := 1, size := (80, 24) } ∅
    authorityHostSessions := AList.insert "2" { child := 2 } ∅ }

theorem paste_contained_lines :
    (pasteNode.routePasteText (fun _ => true) "local#7474:1" "one\ntwo").isSome = true ∧
      (pasteNode.routePasteText (fun _ => true) "local#7474:1" "one\ntwo").elim True
        (Contained ·.bytes) := by
  have hLocal : pasteNode.inputTarget "local#7474:1" = some (.localSession "local#7474:1") := by
    decide +kernel
  have hAll := (paste_contained_iff pasteNode (fun _ => true) "local#7474:1" "one\ntwo" rfl).mpr
    fun input hInput => by
      rw [hLocal, Option.some.injEq] at hInput
      rw [← hInput]
      show ¬pasteStop.toList <:+: utf8Bytes "one\ntwo".toList
      decide +kernel
  refine ⟨by decide +kernel, ?_⟩
  cases hSent : pasteNode.routePasteText (fun _ => true) "local#7474:1" "one\ntwo" with
  | none => trivial
  | some input => exact hAll input hSent

/-- A text with a stop marker ends the paste early, and what comes after it is typed;
a shell that is hosted gets every text as typed input. -/
theorem paste_breaks_out :
    (pasteNode.routePasteText (fun _ => true) "local#7474:1" "\x1b[201~ls\n").map
        (fun input => Marker.outside pasteStart pasteStop false 0 input.bytes) =
      some (utf8Bytes "ls\n\x1b[201~".toList) ∧
    (pasteNode.routePasteText (fun _ => true) "local#7474:2" "ls\n").map
        (fun input => Marker.outside pasteStart pasteStop false 0 input.bytes) =
      some (utf8Bytes "ls\n".toList) := by
  decide +kernel

end WaitAgent.Node
