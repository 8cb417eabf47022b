import WaitAgent.Remote.Observer
import WaitAgent.Verified.Run

/-!
# The two ways output reaches an observer

The observer of a remote terminal reads control-plane messages from a mailbox,
which only grows and of which it remembers how much it has processed; and it is
handed output directly by the threads that read the bridge.  Numbered output
comes both ways, in three kinds of messages, and one number remembers what was
fed.  The replay of a screen that a peer sends first has no numbers.

The main result is that all this feeds the terminal exactly once and in order.
The model notes each piece the terminal is fed with its number, which outputs
were dropped, and the places in the mailbox that were applied.
-/

namespace WaitAgent.Remote

open Verified

structure OpenTargetOkPayload where
  sessionId : String
  targetId : String
  attachmentId : String
  consoleId : String
  resizeEpoch : Nat
  resizeAuthorityConsoleId : String
  resizeAuthorityHostId : String
  availability : String
  deriving DecidableEq, Repr

structure ResizeAuthorityChangedPayload where
  sessionId : String
  targetId : String
  resizeEpoch : Nat
  resizeAuthorityConsoleId : String
  resizeAuthorityHostId : String
  deriving DecidableEq, Repr

structure MirrorBootstrapChunkPayload where
  sessionId : String
  targetId : String
  outputBytes : List UInt8
  deriving DecidableEq, Repr

structure MirrorBootstrapCompletePayload where
  sessionId : String
  targetId : String
  alternateScreenActive : Bool
  applicationCursorKeys : Bool
  cursorVisible : Bool
  deriving DecidableEq, Repr

/-- `TargetOutputPayload` and `RawPtyOutputPayload`. -/
structure OutputPayload where
  sessionId : String
  targetId : String
  outputSeq : Nat
  outputBytes : List UInt8
  deriving DecidableEq, Repr

/-- The control-plane messages, as far as an observer looks at them. -/
inductive ObserverPayload where
  | openTargetOk (payload : OpenTargetOkPayload)
  | resizeAuthorityChanged (payload : ResizeAuthorityChangedPayload)
  | mirrorBootstrapChunk (payload : MirrorBootstrapChunkPayload)
  | mirrorBootstrapComplete (payload : MirrorBootstrapCompletePayload)
  | targetOutput (payload : OutputPayload)
  | rawPtyOutput (payload : OutputPayload)
  /-- any other message -/
  | other
  deriving DecidableEq, Repr

/-- An observer with its mailbox. -/
structure MailboxObserver extends RemoteObserverRuntime where
  mailbox : List ObserverPayload := []
  processedEnvelopes : Nat := 0
  sessionId : Option String := none
  targetId : Option String := none
  attachmentId : Option String := none
  consoleId : Option String := none
  availability : Option String := none
  resizeEpoch : Option Nat := none
  resizeAuthorityConsoleId : Option String := none
  resizeAuthorityHostId : Option String := none
  pendingRawOutput : List UInt8 := []
  deriving DecidableEq, Repr

/-- The modes of the peer's terminal, which end the replay of its screen. -/
def MirrorBootstrapCompletePayload.suffix (payload : MirrorBootstrapCompletePayload) :
    List UInt8 :=
  let alternate := if payload.alternateScreenActive then "\x1b[?1049h" else ""
  let cursorKeys := if payload.applicationCursorKeys then "\x1b[?1h" else ""
  let cursor := if payload.cursorVisible then "\x1b[?25h" else "\x1b[?25l"
  (alternate ++ cursorKeys ++ cursor).toUTF8.toList

namespace MailboxObserver

/-- The terminal is fed bytes that came through the mailbox. -/
def feed (o : MailboxObserver) (sessionId targetId : String) (bytes : List UInt8) :
    MailboxObserver :=
  { o with
    sessionId := some sessionId
    targetId := some targetId
    pendingRawOutput := o.pendingRawOutput ++ bytes
    terminal := o.terminal ++ [bytes] }

def applyBootstrapChunk (o : MailboxObserver) (payload : MirrorBootstrapChunkPayload) :
    MailboxObserver :=
  { o.feed payload.sessionId payload.targetId payload.outputBytes with hasVisibleOutput := true }

def applyBootstrapComplete (o : MailboxObserver) (payload : MirrorBootstrapCompletePayload) :
    MailboxObserver :=
  { o.feed payload.sessionId payload.targetId payload.suffix with bootstrapComplete := true }

/-- Numbered output; a number that is not above the last one is an error. -/
def applyOutput (messageType : String) (o : MailboxObserver) (payload : OutputPayload) :
    Except String MailboxObserver :=
  match o.lastOutputSeq.filter (payload.outputSeq ≤ ·) with
  | some lastOutputSeq =>
      .error ("remote observer received out-of-order " ++ messageType ++ " for `"
        ++ payload.targetId ++ "`: " ++ toString payload.outputSeq ++ " after "
        ++ toString lastOutputSeq)
  | none =>
      .ok { o.feed payload.sessionId payload.targetId payload.outputBytes with
        lastOutputSeq := some payload.outputSeq
        hasVisibleOutput := true }

def applyTargetOutput := applyOutput "target_output"

def applyRawPtyOutput := applyOutput "raw_pty_output"

def applyEnvelope (o : MailboxObserver) : ObserverPayload → Except String MailboxObserver
  | .openTargetOk payload =>
      .ok { o with
        sessionId := some payload.sessionId
        targetId := some payload.targetId
        attachmentId := some payload.attachmentId
        consoleId := some payload.consoleId
        availability := some payload.availability
        resizeEpoch := some payload.resizeEpoch
        resizeAuthorityConsoleId := some payload.resizeAuthorityConsoleId
        resizeAuthorityHostId := some payload.resizeAuthorityHostId }
  | .resizeAuthorityChanged payload =>
      .ok { o with
        sessionId := some payload.sessionId
        targetId := some payload.targetId
        resizeEpoch := some payload.resizeEpoch
        resizeAuthorityConsoleId := some payload.resizeAuthorityConsoleId
        resizeAuthorityHostId := some payload.resizeAuthorityHostId }
  | .mirrorBootstrapChunk payload => .ok (o.applyBootstrapChunk payload)
  | .mirrorBootstrapComplete payload => .ok (o.applyBootstrapComplete payload)
  | .targetOutput payload => o.applyTargetOutput payload
  | .rawPtyOutput payload => o.applyRawPtyOutput payload
  | .other => .ok o

/-- An envelope that cannot be applied is skipped. -/
def applyOrSkip (o : MailboxObserver) (envelope : ObserverPayload) : MailboxObserver :=
  match o.applyEnvelope envelope with
  | .ok o => o
  | .error _ => o

end MailboxObserver

/-- An observer and what happened to it. -/
structure Observation where
  observer : MailboxObserver := {}
  /-- the places in the mailbox that were applied, in this order -/
  applied : List Nat := []
  /-- what the terminal was fed, with the number of numbered output -/
  pieces : List (Option Nat × List UInt8) := []
  /-- how much of it was there when the last number was cleared -/
  since : Nat := 0
  /-- the numbers of dropped output, each with the numbers fed until then -/
  dropped : List (Nat × List Nat) := []

inductive ObservationLabel where
  /-- a message comes into the mailbox -/
  | push (envelope : ObserverPayload)
  | sync
  | feedRawOutput (outputSeq : Nat) (bytes : List UInt8)
  | clearOutputSeq

namespace Observation

/-- The numbers fed since the last number was cleared. -/
def fed (m : Observation) : List Nat :=
  (m.pieces.drop m.since).filterMap Prod.fst

def notePiece (m : Observation) (bytes : List UInt8) : Observation :=
  { m with pieces := m.pieces ++ [(none, bytes)] }

def noteOutput (m : Observation) (outputSeq : Nat) (bytes : List UInt8) : Observation :=
  if m.observer.isDuplicate outputSeq then
    { m with dropped := m.dropped ++ [(outputSeq, m.fed)] }
  else
    { m with pieces := m.pieces ++ [(some outputSeq, bytes)] }

/-- What applying an envelope does to the notes. -/
def note (m : Observation) : ObserverPayload → Observation
  | .mirrorBootstrapChunk payload => m.notePiece payload.outputBytes
  | .mirrorBootstrapComplete payload => m.notePiece payload.suffix
  | .targetOutput payload => m.noteOutput payload.outputSeq payload.outputBytes
  | .rawPtyOutput payload => m.noteOutput payload.outputSeq payload.outputBytes
  | _ => m

/-- The envelope at a place of the mailbox is applied, or skipped. -/
def applyAt (m : Observation) (envelope : ObserverPayload × Nat) : Observation :=
  { m.note envelope.1 with
    observer := m.observer.applyOrSkip envelope.1
    applied := m.applied ++ [envelope.2] }

def sync (m : Observation) : Observation :=
  let envelopes := m.observer.mailbox.zipIdx.drop m.observer.processedEnvelopes
  let m := envelopes.foldl applyAt m
  { m with observer := { m.observer with
    processedEnvelopes := m.observer.processedEnvelopes + envelopes.length } }

def step (m : Observation) : ObservationLabel → Observation
  | .push envelope =>
      { m with observer := { m.observer with mailbox := m.observer.mailbox ++ [envelope] } }
  | .sync => m.sync
  | .feedRawOutput outputSeq bytes =>
      { m.noteOutput outputSeq bytes with observer := { m.observer with
        toRemoteObserverRuntime :=
          m.observer.toRemoteObserverRuntime.feedRawOutput outputSeq bytes } }
  | .clearOutputSeq =>
      { m with
        observer := { m.observer with
          toRemoteObserverRuntime := m.observer.toRemoteObserverRuntime.clearOutputSeq }
        since := m.pieces.length }

end Observation

/-! ## What should be fed -/

/-- Numbered output is new above the last number. -/
def deliverOutput (last : Option Nat) (outputSeq : Nat) (bytes : List UInt8) :
    List (Option Nat × List UInt8) :=
  if last.all (· < outputSeq) then [(some outputSeq, bytes)] else []

def deliver (last : Option Nat) : ObserverPayload → List (Option Nat × List UInt8)
  | .mirrorBootstrapChunk payload => [(none, payload.outputBytes)]
  | .mirrorBootstrapComplete payload => [(none, payload.suffix)]
  | .targetOutput payload => deliverOutput last payload.outputSeq payload.outputBytes
  | .rawPtyOutput payload => deliverOutput last payload.outputSeq payload.outputBytes
  | _ => []

/-- The number to compare with after a delivery. -/
def lastAfter (last : Option Nat) (pieces : List (Option Nat × List UInt8)) : Option Nat :=
  (pieces.head?.bind Prod.fst).or last

/-- What messages one after the other bring. -/
def deliverAll : (last : Option Nat) → List ObserverPayload → List (Option Nat × List UInt8)
  | _, [] => []
  | last, payload :: payloads =>
      deliver last payload ++ deliverAll (lastAfter last (deliver last payload)) payloads

/-- What a step brings: a sync brings all that waits in the mailbox. -/
def Observation.delivered (m : Observation) : ObservationLabel → List (Option Nat × List UInt8)
  | .sync => deliverAll m.observer.lastOutputSeq
      (m.observer.mailbox.drop m.observer.processedEnvelopes)
  | .feedRawOutput outputSeq bytes => deliverOutput m.observer.lastOutputSeq outputSeq bytes
  | _ => []

/-! ## What the terminal is fed -/

theorem RemoteObserverRuntime.exists_of_isDuplicate {o : RemoteObserverRuntime} {outputSeq : Nat}
    (h : o.isDuplicate outputSeq = true) :
    ∃ last, o.lastOutputSeq = some last ∧ outputSeq ≤ last := by
  cases hLast : o.lastOutputSeq with
  | none => simp [isDuplicate, hLast] at h
  | some last =>
    refine ⟨last, rfl, ?_⟩
    simpa [isDuplicate, hLast] using h

/-- Numbered output through the mailbox is fed unless it is a duplicate. -/
theorem MailboxObserver.applyOutput_eq (messageType : String) (o : MailboxObserver)
    (payload : OutputPayload) :
    (o.isDuplicate payload.outputSeq = true ∧
      ∃ message, applyOutput messageType o payload = .error message) ∨
    (o.isDuplicate payload.outputSeq = false ∧ applyOutput messageType o payload
      = .ok { o.feed payload.sessionId payload.targetId payload.outputBytes with
          lastOutputSeq := some payload.outputSeq
          hasVisibleOutput := true }) := by
  unfold applyOutput
  cases hLast : o.lastOutputSeq with
  | none => exact .inr ⟨by simp [RemoteObserverRuntime.isDuplicate, hLast], rfl⟩
  | some last =>
    by_cases hLe : payload.outputSeq ≤ last
    · have hFilter : (some last).filter (payload.outputSeq ≤ ·) = some last := by simp [hLe]
      rw [hFilter]
      exact .inl ⟨by simp [RemoteObserverRuntime.isDuplicate, hLast, hLe], _, rfl⟩
    · refine .inr ⟨by simpa [RemoteObserverRuntime.isDuplicate, hLast] using hLe, ?_⟩
      simp [Option.filter, hLe]

namespace Observation

/-- The terminal was fed the pieces, the last number is the last one fed, and
only output was dropped that was not above a number fed before. -/
structure InOrder (m : Observation) : Prop where
  terminal : m.observer.terminal = m.pieces.map Prod.snd
  since : m.since ≤ m.pieces.length
  last : m.observer.lastOutputSeq = m.fed.getLast?
  increasing : m.fed.Pairwise (· < ·)
  dropped : ∀ d ∈ m.dropped, ∃ n ∈ d.2, d.1 ≤ n

variable {m : Observation}

theorem fed_append (h : m.since ≤ m.pieces.length) (number : Option Nat) (bytes : List UInt8) :
    fed { m with pieces := m.pieces ++ [(number, bytes)] } = m.fed ++ number.toList := by
  rw [fed, List.drop_append_of_le_length h, List.filterMap_append, fed]
  cases number <;> rfl

/-- In an increasing list the last number bounds all. -/
theorem le_last {l : List Nat} (h : l.Pairwise (· < ·)) {last n : Nat}
    (hLast : l.getLast? = some last) (hn : n ∈ l) : n ≤ last := by
  obtain ⟨init, rfl⟩ := List.getLast?_eq_some_iff.mp hLast
  rcases List.mem_append.mp hn with hInit | hn
  · exact Nat.le_of_lt ((List.pairwise_append.mp h).2.2 n hInit last (List.mem_singleton_self _))
  · exact Nat.le_of_eq (List.mem_singleton.mp hn)

/-- The terminal is fed a piece without a number. -/
theorem InOrder.piece (h : m.InOrder) {observer : MailboxObserver} (bytes : List UInt8)
    (hTerminal : observer.terminal = m.observer.terminal ++ [bytes])
    (hLast : observer.lastOutputSeq = m.observer.lastOutputSeq) :
    InOrder { m.notePiece bytes with observer } := by
  have hFed : (m.notePiece bytes).fed = m.fed :=
    (fed_append h.since none bytes).trans (List.append_nil _)
  exact {
    terminal := by
      show observer.terminal = (m.pieces ++ [(none, bytes)]).map Prod.snd
      rw [hTerminal, h.terminal, List.map_append]
      rfl
    since := by
      show m.since ≤ (m.pieces ++ [(none, bytes)]).length
      rw [List.length_append]
      exact Nat.le_add_right_of_le h.since
    last := hLast.trans (h.last.trans (congrArg List.getLast? hFed.symm))
    increasing := hFed.symm ▸ h.increasing
    dropped := h.dropped }

/-- The terminal is fed numbered output, or this is dropped. -/
theorem InOrder.output (h : m.InOrder) {observer : MailboxObserver} (outputSeq : Nat)
    (bytes : List UInt8)
    (hDropped : m.observer.isDuplicate outputSeq = true →
      observer.terminal = m.observer.terminal ∧
        observer.lastOutputSeq = m.observer.lastOutputSeq)
    (hFed : m.observer.isDuplicate outputSeq = false →
      observer.terminal = m.observer.terminal ++ [bytes] ∧
        observer.lastOutputSeq = some outputSeq) :
    InOrder { m.noteOutput outputSeq bytes with observer } := by
  unfold noteOutput
  by_cases hDuplicate : m.observer.isDuplicate outputSeq = true
  · obtain ⟨hTerminal, hLast⟩ := hDropped hDuplicate
    rw [if_pos hDuplicate]
    refine {
      terminal := hTerminal.trans h.terminal
      since := h.since
      last := hLast.trans h.last
      increasing := h.increasing
      dropped := fun d hd => ?_ }
    rcases List.mem_append.mp hd with hOld | hNew
    · exact h.dropped d hOld
    · obtain rfl := List.mem_singleton.mp hNew
      obtain ⟨last, hSome, hLe⟩ := RemoteObserverRuntime.exists_of_isDuplicate hDuplicate
      exact ⟨last, List.mem_of_getLast? (h.last.symm.trans hSome), hLe⟩
  · have hNew := Bool.eq_false_iff.mpr hDuplicate
    obtain ⟨hTerminal, hLast⟩ := hFed hNew
    rw [if_neg hDuplicate]
    have hNumbers := fed_append h.since (some outputSeq) bytes
    have hAbove : ∀ n ∈ m.fed, n < outputSeq := by
      intro n hn
      cases hOld : m.fed.getLast? with
      | none =>
        rw [List.getLast?_eq_none_iff] at hOld
        rw [hOld] at hn
        cases hn
      | some last =>
        have hLast : m.observer.lastOutputSeq = some last := h.last.trans hOld
        have hLt : last < outputSeq := by
          simpa [RemoteObserverRuntime.isDuplicate, hLast] using hNew
        exact Nat.lt_of_le_of_lt (le_last h.increasing hOld hn) hLt
    exact {
      terminal := by
        show observer.terminal = (m.pieces ++ [(some outputSeq, bytes)]).map Prod.snd
        rw [hTerminal, h.terminal, List.map_append]
        rfl
      since := by
        show m.since ≤ (m.pieces ++ [(some outputSeq, bytes)]).length
        rw [List.length_append]
        exact Nat.le_add_right_of_le h.since
      last := by
        show observer.lastOutputSeq
          = (fed { m with pieces := m.pieces ++ [(some outputSeq, bytes)] }).getLast?
        rw [hLast, hNumbers]
        exact List.getLast?_concat.symm
      increasing := by
        show (fed { m with pieces := m.pieces ++ [(some outputSeq, bytes)] }).Pairwise (· < ·)
        rw [hNumbers]
        refine List.pairwise_append.mpr ⟨h.increasing, List.pairwise_singleton _ _, ?_⟩
        intro n hn k hk
        rw [List.mem_singleton.mp hk]
        exact hAbove n hn
      dropped := h.dropped }

theorem InOrder.applyOutput (h : m.InOrder) (messageType : String) (payload : OutputPayload)
    {observer : MailboxObserver}
    (hObserver : observer = match MailboxObserver.applyOutput messageType m.observer payload with
      | .ok o => o
      | .error _ => m.observer) :
    InOrder { m.noteOutput payload.outputSeq payload.outputBytes with observer } := by
  rcases m.observer.applyOutput_eq messageType payload with
    ⟨hDuplicate, message, hResult⟩ | ⟨hNew, hResult⟩
  · rw [hResult] at hObserver
    subst hObserver
    refine h.output _ _ (fun _ => ⟨rfl, rfl⟩) fun hFalse => ?_
    rw [hDuplicate] at hFalse
    cases hFalse
  · rw [hResult] at hObserver
    subst hObserver
    exact h.output _ _ (fun hTrue => by rw [hNew] at hTrue; cases hTrue) fun _ => ⟨rfl, rfl⟩

theorem InOrder.applyAt (h : m.InOrder) (envelope : ObserverPayload × Nat) :
    (m.applyAt envelope).InOrder := by
  obtain ⟨payload, place⟩ := envelope
  have hNoted : InOrder { m.note payload with observer := m.observer.applyOrSkip payload } := by
    cases payload with
    | openTargetOk payload => exact { h with }
    | resizeAuthorityChanged payload => exact { h with }
    | mirrorBootstrapChunk payload => exact h.piece payload.outputBytes rfl rfl
    | mirrorBootstrapComplete payload => exact h.piece payload.suffix rfl rfl
    | targetOutput payload => exact h.applyOutput "target_output" payload rfl
    | rawPtyOutput payload => exact h.applyOutput "raw_pty_output" payload rfl
    | other => exact { h with }
  exact { hNoted with }

theorem InOrder.foldl_applyAt (envelopes : List (ObserverPayload × Nat)) :
    ∀ m : Observation, m.InOrder → (envelopes.foldl Observation.applyAt m).InOrder := by
  induction envelopes with
  | nil => exact fun m h => h
  | cons envelope envelopes ih => exact fun m h => ih _ (h.applyAt envelope)

theorem inOrder_start : InOrder {} where
  terminal := rfl
  since := Nat.le_refl 0
  last := rfl
  increasing := List.Pairwise.nil
  dropped d hd := by cases hd

theorem inOrder_step (m : Observation) (label : ObservationLabel) (h : m.InOrder) :
    (m.step label).InOrder := by
  cases label with
  | push envelope => exact { h with }
  | sync =>
    have hFolded := InOrder.foldl_applyAt
      (m.observer.mailbox.zipIdx.drop m.observer.processedEnvelopes) m h
    exact { hFolded with }
  | feedRawOutput outputSeq bytes =>
    refine h.output outputSeq bytes (fun hDuplicate => ?_) (fun hNew => ?_)
    · simp [RemoteObserverRuntime.feedRawOutput, hDuplicate]
    · simp [RemoteObserverRuntime.feedRawOutput, hNew]
  | clearOutputSeq =>
    have hNone : fed (m.step .clearOutputSeq) = [] := by
      show (m.pieces.drop m.pieces.length).filterMap Prod.fst = []
      rw [List.drop_length, List.filterMap_nil]
    exact {
      terminal := h.terminal
      since := Nat.le_refl _
      last := by rw [hNone]; rfl
      increasing := hNone ▸ List.Pairwise.nil
      dropped := h.dropped }

/-! ## Deliveries -/

theorem isDuplicate_eq (o : RemoteObserverRuntime) (outputSeq : Nat) :
    o.isDuplicate outputSeq = !o.lastOutputSeq.all (· < outputSeq) := by
  rw [RemoteObserverRuntime.isDuplicate]
  cases o.lastOutputSeq with
  | none => rfl
  | some last =>
    rw [Option.any_some, Option.all_some, ← decide_not]
    exact decide_eq_decide.mpr Nat.not_lt.symm

theorem noteOutput_pieces (m : Observation) (outputSeq : Nat) (bytes : List UInt8) :
    (m.noteOutput outputSeq bytes).pieces =
      m.pieces ++ deliverOutput m.observer.lastOutputSeq outputSeq bytes := by
  unfold noteOutput deliverOutput
  rw [isDuplicate_eq]
  cases m.observer.lastOutputSeq.all (· < outputSeq) <;> simp

theorem applyAt_delivers (m : Observation) (envelope : ObserverPayload × Nat) :
    (m.applyAt envelope).pieces =
        m.pieces ++ deliver m.observer.lastOutputSeq envelope.1
      ∧ (m.applyAt envelope).observer.lastOutputSeq =
        lastAfter m.observer.lastOutputSeq (deliver m.observer.lastOutputSeq envelope.1) := by
  have hOutput (messageType : String) (payload : OutputPayload) :
      (match MailboxObserver.applyOutput messageType m.observer payload with
        | .ok o => o
        | .error _ => m.observer).lastOutputSeq =
      lastAfter m.observer.lastOutputSeq (deliverOutput m.observer.lastOutputSeq payload.outputSeq
        payload.outputBytes) := by
    rcases m.observer.applyOutput_eq messageType payload with
      ⟨hDuplicate, message, hResult⟩ | ⟨hNew, hResult⟩
    · rw [isDuplicate_eq, Bool.not_eq_true'] at hDuplicate
      simp [hResult, deliverOutput, hDuplicate, lastAfter]
    · rw [isDuplicate_eq, Bool.not_eq_false'] at hNew
      simp [hResult, deliverOutput, hNew, lastAfter]
  obtain ⟨payload, place⟩ := envelope
  cases payload with
  | targetOutput payload => exact ⟨m.noteOutput_pieces _ _, hOutput "target_output" payload⟩
  | rawPtyOutput payload => exact ⟨m.noteOutput_pieces _ _, hOutput "raw_pty_output" payload⟩
  | mirrorBootstrapChunk payload | mirrorBootstrapComplete payload => exact ⟨rfl, rfl⟩
  | _ => exact ⟨(List.append_nil _).symm, rfl⟩

theorem foldl_applyAt_delivers (envelopes : List (ObserverPayload × Nat)) :
    ∀ m : Observation, (envelopes.foldl applyAt m).pieces =
      m.pieces ++ deliverAll m.observer.lastOutputSeq (envelopes.map Prod.fst) := by
  induction envelopes with
  | nil => exact fun m => (List.append_nil _).symm
  | cons envelope envelopes ih =>
    intro m
    obtain ⟨hPieces, hLast⟩ := m.applyAt_delivers envelope
    rw [List.foldl_cons, ih, hPieces, hLast, List.map_cons, deliverAll, List.append_assoc]

theorem step_delivers (m : Observation) (label : ObservationLabel) :
    (m.step label).pieces = m.pieces ++ m.delivered label := by
  cases label with
  | push envelope | clearOutputSeq => exact (List.append_nil _).symm
  | sync =>
    have hFold := foldl_applyAt_delivers
      (m.observer.mailbox.zipIdx.drop m.observer.processedEnvelopes) m
    rwa [List.map_drop, List.zipIdx_map_fst] at hFold
  | feedRawOutput outputSeq bytes => exact m.noteOutput_pieces outputSeq bytes

/-! ## The mailbox -/

/-- The places of the mailbox that were processed were applied, each once and in
order. -/
structure Processed (m : Observation) : Prop where
  within : m.observer.processedEnvelopes ≤ m.observer.mailbox.length
  applied : m.applied = List.range m.observer.processedEnvelopes

theorem applyOrSkip_mailbox (o : MailboxObserver) (payload : ObserverPayload) :
    (o.applyOrSkip payload).mailbox = o.mailbox ∧
      (o.applyOrSkip payload).processedEnvelopes = o.processedEnvelopes := by
  have hOutput : ∀ messageType payload, ((match MailboxObserver.applyOutput messageType o payload
        with
        | .ok o => o
        | .error _ => o) : MailboxObserver).mailbox = o.mailbox ∧
      ((match MailboxObserver.applyOutput messageType o payload with
        | .ok o => o
        | .error _ => o) : MailboxObserver).processedEnvelopes = o.processedEnvelopes := by
    intro messageType payload
    rcases o.applyOutput_eq messageType payload with ⟨-, message, hResult⟩ | ⟨-, hResult⟩
    · rw [hResult]
      exact ⟨rfl, rfl⟩
    · rw [hResult]
      exact ⟨rfl, rfl⟩
  cases payload with
  | targetOutput payload => exact hOutput "target_output" payload
  | rawPtyOutput payload => exact hOutput "raw_pty_output" payload
  | _ => exact ⟨rfl, rfl⟩

theorem foldl_applyAt_mailbox (envelopes : List (ObserverPayload × Nat)) :
    ∀ m : Observation, (envelopes.foldl applyAt m).observer.mailbox = m.observer.mailbox ∧
      (envelopes.foldl applyAt m).observer.processedEnvelopes = m.observer.processedEnvelopes ∧
      (envelopes.foldl applyAt m).applied = m.applied ++ envelopes.map Prod.snd := by
  induction envelopes with
  | nil => exact fun m => ⟨rfl, rfl, (List.append_nil _).symm⟩
  | cons envelope envelopes ih =>
    intro m
    obtain ⟨hMailbox, hProcessed, hApplied⟩ := ih (m.applyAt envelope)
    obtain ⟨hKept, hKept'⟩ := applyOrSkip_mailbox m.observer envelope.1
    refine ⟨hMailbox.trans hKept, hProcessed.trans hKept', hApplied.trans ?_⟩
    simp [applyAt]

/-- A sync leaves nothing waiting. -/
theorem Processed.sync (h : m.Processed) :
    (m.step .sync).observer.processedEnvelopes = m.observer.mailbox.length := by
  obtain ⟨-, hProcessed, -⟩ := foldl_applyAt_mailbox
    (m.observer.mailbox.zipIdx.drop m.observer.processedEnvelopes) m
  show _ + (m.observer.mailbox.zipIdx.drop m.observer.processedEnvelopes).length = _
  rw [hProcessed, List.length_drop, List.length_zipIdx]
  exact Nat.add_sub_of_le h.within

theorem processed_step (m : Observation) (label : ObservationLabel) (h : m.Processed) :
    (m.step label).Processed := by
  cases label with
  | push envelope =>
    refine { within := ?_, applied := h.applied }
    show _ ≤ (m.observer.mailbox ++ [envelope]).length
    rw [List.length_append]
    exact Nat.le_add_right_of_le h.within
  | sync =>
    obtain ⟨hMailbox, -, hApplied⟩ := foldl_applyAt_mailbox
      (m.observer.mailbox.zipIdx.drop m.observer.processedEnvelopes) m
    have hAll := h.sync
    refine { within := ?_, applied := ?_ }
    · rw [hAll]
      exact Nat.le_of_eq (congrArg List.length hMailbox.symm)
    · rw [hAll]
      show (List.foldl applyAt m _).applied = _
      have hDone : List.range m.observer.processedEnvelopes
          = (List.range m.observer.mailbox.length).take m.observer.processedEnvelopes := by
        rw [List.take_range, Nat.min_eq_left h.within]
      rw [hApplied, h.applied, List.map_drop, List.zipIdx_map_snd, ← List.range_eq_range', hDone,
        List.take_append_drop]
  | feedRawOutput outputSeq bytes =>
    have hNoted : (m.noteOutput outputSeq bytes).applied = m.applied := by
      unfold noteOutput
      split <;> rfl
    exact { within := h.within, applied := hNoted.trans h.applied }
  | clearOutputSeq => exact { within := h.within, applied := h.applied }

end Observation

/-- **The observer applies each output exactly once and in order.**  After any
sequence of messages, syncs, direct output and clearings of the number: the
processed places of the mailbox were applied once each, in order; the terminal
was fed just the noted pieces, one after the other; the numbers among those fed
since the last clearing increase strictly, the last of them being the number the
observer remembers; output was dropped only when a number not below its own had
been fed; and the next step feeds exactly what it should, a sync all that waits
in the mailbox. -/
theorem observer_exactly_once (labels : List ObservationLabel) :
    let m := run Observation.step {} labels
    (m.applied.Nodup ∧ m.applied = List.range m.observer.processedEnvelopes ∧
      m.observer.processedEnvelopes ≤ m.observer.mailbox.length) ∧
    m.observer.terminal = m.pieces.map Prod.snd ∧
    (m.fed.Pairwise (· < ·) ∧ m.fed.Nodup ∧ m.observer.lastOutputSeq = m.fed.getLast?) ∧
    (∀ outputSeq fed, (outputSeq, fed) ∈ m.dropped → ¬ ∀ n ∈ fed, n < outputSeq) ∧
    (∀ label, (m.step label).pieces = m.pieces ++ m.delivered label) ∧
    (m.step .sync).observer.processedEnvelopes = m.observer.mailbox.length := by
  intro m
  have hOrder : m.InOrder :=
    run_invariant Observation.inOrder_step labels {} Observation.inOrder_start
  have hProcessed : m.Processed := run_invariant Observation.processed_step labels {}
    { within := Nat.le_refl 0, applied := rfl }
  refine ⟨⟨?_, hProcessed.applied, hProcessed.within⟩, hOrder.terminal,
    ⟨hOrder.increasing, hOrder.increasing.imp Nat.ne_of_lt, hOrder.last⟩, ?_, m.step_delivers,
    hProcessed.sync⟩
  · rw [hProcessed.applied]
    exact List.nodup_range
  · intro outputSeq fed hDropped hAbove
    obtain ⟨n, hn, hLe⟩ := hOrder.dropped _ hDropped
    exact Nat.lt_irrefl _ (Nat.lt_of_lt_of_le (hAbove n hn) hLe)

end WaitAgent.Remote
