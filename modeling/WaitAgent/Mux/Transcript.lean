import WaitAgent.Mux.Duplex

/-!
# The transcript of a stream

What the calls on a stream do to the bytes: reading moves bytes towards the caller and
loses none, writing adds to what was written exactly what it queues, and after the close
nothing but grants is queued.  This is one lemma about a step of a call, for a connection
that has not failed.
-/

namespace WaitAgent.Mux

/-- The bytes that a frame carries. -/
def Frame.bytes : Frame → List UInt8
  | data _ payload => payload
  | _ => []

namespace Handle

/-- A call in progress stays within the credit, and a new stream is announced by its own
frame. -/
def CallOk (h : Handle) : Prop :=
  match h.call with
  | .opening frame => ∃ target, frame = Connection.openFrame h.id target
  | .sending payload => 1 ≤ payload.length ∧ payload.length ≤ maxFramePayload ∧
      payload.length ≤ h.stream.peerCredit
  | .debiting n => n ≤ h.stream.peerCredit
  | _ => True

/-- What is planned fits a frame and the credit, and is planned before the close. -/
theorem sending_ok {h : Handle} {buf : List UInt8} {n : Nat}
    (hAllow : h.stream.allowance buf = .ok n) (hZero : n ≠ 0) :
    ({ h with call := .sending (buf.take n) } : Handle).CallOk ∧ h.stream.finSent = false := by
  unfold Stream.allowance at hAllow
  split_ifs at hAllow with hFin
  have hn : min (min buf.length maxFramePayload) h.stream.peerCredit = n := Except.ok.inj hAllow
  have hLength : (buf.take n).length = n := by
    rw [List.length_take]
    omega
  refine ⟨?_, by simpa using hFin⟩
  simp only [CallOk, hLength]
  omega

variable {ctx : Context} {h h' : Handle}

/-- The calls that a full or closed queue, or a lack of credit, sends back to their caller. -/
def returnable : Call → Bool
  | .granting _ | .checked _ | .sending _ | .closing => true
  | _ => false

/-- What a step of a call leads to, and the frame that it queues. -/
inductive Took (ctx : Context) (h : Handle) : CallStep → Handle → Option Frame → Prop where
  | stays (step : CallStep) : Took ctx h step h none
  | reads (room : Nat) (hCall : h.call = .idle) : Took ctx h (.read room) (h.read ctx room) none
  | endsRead {received : Stream.Received} (hCall : h.call = .reading received) :
      Took ctx h .endRead (h.returnRead (h.stream.endRead ctx.link received)) none
  | grants {delta : Nat} (hCall : h.call = .granting delta) (hQueue : ctx.queue = .queued) :
      Took ctx h .grant { h with call := .idle } (some (.window h.id delta))
  | defers {delta : Nat} (hCall : h.call = .granting delta) :
      Took ctx h .grant { h with call := .idle, stream := h.stream.deferGrant delta } none
  | returns (step : CallStep) (hCall : returnable h.call = true) :
      Took ctx h step { h with call := .idle } none
  | checks (buf : List UInt8) (hCall : h.call = .idle) :
      Took ctx h (.write buf) { h with call := .checked buf } none
  | plans {buf payload : List UInt8} (hCall : h.call = .checked buf)
      (hOk : ({ h with call := .sending payload } : Handle).CallOk)
      (hOpen : h.stream.finSent = false) :
      Took ctx h .plan { h with call := .sending payload } none
  | sends {payload : List UInt8} (hCall : h.call = .sending payload)
      (hQueue : ctx.queue = .queued) :
      Took ctx h .send { h with call := .debiting payload.length, wrote := h.wrote ++ payload }
        (some (.data h.id payload))
  | debits {n : Nat} (hCall : h.call = .debiting n) :
      Took ctx h .debit { h with call := .idle, stream := h.stream.debit n } none
  | shuts (hCall : h.call = .idle) (hOpen : h.stream.finSent = false) :
      Took ctx h .shutdown { h with call := .closing } none
  | closes (hCall : h.call = .closing) (hQueue : ctx.queue = .queued) :
      Took ctx h .sendClose { h with call := .finishing } (some (.close h.id))
  /-- Nobody takes the `Close` any more. -/
  | closesUnsent (hCall : h.call = .closing) (hQueue : ctx.queue = .closed) :
      Took ctx h .sendClose { h with call := .finishing } none
  | finishes (hCall : h.call = .finishing) :
      Took ctx h .finish { h with call := .idle, stream := h.stream.finish } none
  | drops (hCall : h.call = .idle) : Took ctx h .drop { h with call := .dropped } none

/-- Every step is one of these. -/
theorem took_step (ctx : Context) (h : Handle) (step : CallStep) :
    Took ctx h step (h.step ctx step).1 (h.step ctx step).2 := by
  cases step with
  | read room =>
    simp only [Handle.step]
    split
    · next hCall => exact .reads room hCall
    · exact .stays _
  | endRead =>
    simp only [Handle.step]
    split
    · next received hCall => exact .endsRead hCall
    · exact .stays _
  | grant =>
    simp only [Handle.step]
    split
    · next delta hCall =>
      split
      · next hQueue => exact .grants hCall hQueue
      · exact .defers hCall
      · exact .returns _ (by rw [hCall, returnable])
    · exact .stays _
  | write buf =>
    simp only [Handle.step]
    split
    · next hCall =>
      split_ifs
      · exact .stays _
      · split
        · exact .stays _
        · exact .checks buf hCall
    · exact .stays _
  | plan =>
    simp only [Handle.step]
    split
    · next buf hCall =>
      have hReturn : Took ctx h .plan { h with call := .idle } none :=
        .returns .plan (by rw [hCall, returnable])
      split
      · exact hReturn
      · next n hAllow =>
        split_ifs with hZero
        · exact hReturn
        · obtain ⟨hOk, hOpen⟩ := sending_ok hAllow hZero
          exact .plans hCall hOk hOpen
    · exact .stays _
  | send =>
    simp only [Handle.step]
    split
    · next payload hCall =>
      split
      · next hQueue => exact .sends hCall hQueue
      all_goals exact .returns _ (by rw [hCall, returnable])
    · exact .stays _
  | debit =>
    simp only [Handle.step]
    split
    · next n hCall => exact .debits hCall
    · exact .stays _
  | shutdown =>
    simp only [Handle.step]
    split
    · next hCall =>
      split_ifs with hDone
      · exact .stays _
      · exact .shuts hCall (Bool.or_eq_false_iff.mp (by simpa using hDone)).1
    · exact .stays _
  | sendClose =>
    simp only [Handle.step]
    split
    · next hCall =>
      split
      · next hQueue => exact .closes hCall hQueue
      · exact .returns _ (by rw [hCall, returnable])
      · next hQueue => exact .closesUnsent hCall hQueue
    · exact .stays _
  | finish =>
    simp only [Handle.step]
    split
    · next hCall => exact .finishes hCall
    · exact .stays _
  | drop =>
    simp only [Handle.step]
    split
    · next hCall => exact .drops hCall
    · exact .stays _

/-- All that has arrived: what reads have returned, and what is left for them. -/
def arrived (h : Handle) : List UInt8 :=
  h.received ++ (h.stream.leftover ++ h.stream.inbound.flatten)

theorem arrived_push (h : Handle) (payload : List UInt8) :
    ({ h with stream := h.stream.push payload } : Handle).arrived = h.arrived ++ payload := by
  simp [arrived, Stream.push, Stream.leftover]

/-- The `Close` of this end is queued. -/
def closedOut (h : Handle) : Bool :=
  h.stream.finSent || h.call = .finishing

/-- What a step queues, and how it stands with the close. -/
inductive Output (h h' : Handle) : Option Frame → Prop where
  | quiet (hSame : h'.closedOut = h.closedOut) : Output h h' none
  | data (payload : List UInt8) (hNe : payload ≠ []) (hOpen : h.closedOut = false)
      (hStays : h'.closedOut = false) : Output h h' (some (.data h.id payload))
  | close (hOpen : h.closedOut = false) (hCloses : h'.closedOut = true) :
      Output h h' (some (.close h.id))
  | window (delta : Nat) (hCall : h.call = .granting delta) (hSame : h'.closedOut = h.closedOut) :
      Output h h' (some (.window h.id delta))

/-- The tail of a chunk gets shorter by what is read of it. -/
theorem leftover_skipLeftover (s : Stream) (room : Nat) :
    (s.skipLeftover room).leftover = s.leftover.drop room := by
  simp only [Stream.skipLeftover, Stream.leftover, List.drop_drop]
  rcases Nat.le_total (s.readOffset + room) s.readLeftover.length with hFits | hOver
  · rw [Nat.min_eq_left hFits]
  · rw [Nat.min_eq_right hOver, List.drop_length, List.drop_eq_nil_of_le hOver]

/-! ### Calls on any handle -/

/-- What the calls on a stream leave as it is. -/
structure SameStream (h h' : Handle) : Prop where
  id_eq : h'.id = h.id
  peerFin_eq : h'.stream.peerFin = h.stream.peerFin
  reset_eq : h'.stream.reset = h.stream.reset
  arrived_eq : h'.arrived = h.arrived

theorem SameStream.refl (h : Handle) : SameStream h h :=
  ⟨rfl, rfl, rfl, rfl⟩

/-- Reading moves bytes to the caller. -/
theorem read_same (ctx : Context) (h : Handle) (room : Nat) :
    SameStream h (h.read ctx room) ∧ (h.read ctx room).stream.finSent = h.stream.finSent ∧
      (h.read ctx room).wrote = h.wrote := by
  unfold read
  obtain ⟨rfl, hStart⟩ | ⟨⟨hPos, hLeft⟩, hStart⟩ | ⟨chunk, rest, hPos, hLeft, hInbound, hStart⟩ |
    ⟨hPos, hLeft, hInbound, hStart⟩ := h.stream.startRead_cases room ctx.hasSender
  · rw [hStart]
    exact ⟨⟨rfl, rfl, rfl, by simp [arrived]⟩, rfl, rfl⟩
  · rw [hStart]
    refine ⟨⟨rfl, rfl, rfl, ?_⟩, rfl, rfl⟩
    simp only [arrived, leftover_skipLeftover]
    rw [List.append_assoc, ← List.append_assoc (List.take _ _), List.take_append_drop]
    rfl
  · rw [hStart]
    set s := h.stream.takeChunk (min room chunk.length) chunk rest with hTake
    have hNoTail : h.stream.leftover = [] := List.drop_eq_nil_of_le (Nat.le_of_not_lt hLeft)
    have hFlags : (s.accountConsumed (min room chunk.length)).2.peerFin = h.stream.peerFin ∧
        (s.accountConsumed (min room chunk.length)).2.reset = h.stream.reset ∧
        (s.accountConsumed (min room chunk.length)).2.finSent = h.stream.finSent := by
      simp only [hTake, Stream.accountConsumed, Stream.takeChunk]
      split_ifs <;> exact ⟨rfl, rfl, rfl⟩
    refine ⟨⟨?_, hFlags.1, hFlags.2.1, ?_⟩, hFlags.2.2, rfl⟩
    · simp [Handle.id, hTake]
    · -- the rest of the chunk becomes the tail
      simp only [arrived, Stream.accountConsumed_leftover, Stream.accountConsumed_inbound, hTake,
        Stream.takeChunk_leftover _ _ _ hLeft, Stream.takeChunk_inbound, hNoTail, hInbound]
      rw [List.take_eq_take_min, List.append_assoc, ← List.append_assoc (List.take _ _),
        List.take_append_drop]
      rfl
  · rw [hStart]
    cases ctx.hasSender <;> exact ⟨⟨rfl, rfl, rfl, rfl⟩, rfl, rfl⟩

/-- A read returns, leaves a grant to be queued, or finds nothing. -/
theorem read_cases (ctx : Context) (h : Handle) (room : Nat) :
    (h.read ctx room).call = .idle ∨ (∃ delta, (h.read ctx room).call = .granting delta) ∨
      (0 < room ∧ ¬ h.stream.HasLeftover ∧ h.stream.inbound = [] ∧
        h.read ctx room =
          { h with call := .reading (if ctx.hasSender then .empty else .closed) }) := by
  unfold read
  obtain ⟨rfl, hStart⟩ | ⟨-, hStart⟩ | ⟨chunk, rest, -, -, -, hStart⟩ |
    ⟨hPos, hLeft, hInbound, hStart⟩ := h.stream.startRead_cases room ctx.hasSender
  · rw [hStart]
    exact Or.inl rfl
  · rw [hStart]
    exact Or.inl rfl
  · rw [hStart]
    by_cases hNone : ((h.stream.takeChunk (min room chunk.length) chunk rest).accountConsumed
        (min room chunk.length)).1 = 0
    · exact Or.inl (if_pos hNone)
    · exact Or.inr (Or.inl ⟨_, if_neg hNone⟩)
  · rw [hStart]
    refine Or.inr (Or.inr ⟨hPos, hLeft, hInbound, ?_⟩)
    cases ctx.hasSender <;> rfl

/-- The flags say whether there is an end; no bytes come with it. -/
theorem endRead_same (link : Link) {received : Stream.Received}
    (hReceived : received = .empty ∨ received = .closed) :
    SameStream h (h.returnRead (h.stream.endRead link received)) ∧
      (h.returnRead (h.stream.endRead link received)).stream = h.stream ∧
      (h.returnRead (h.stream.endRead link received)).wrote = h.wrote := by
  have hReturn (result : ReadResult) (hBytes : ∀ bytes, result = .ready bytes → bytes = []) :
      SameStream h (h.returnRead result) ∧ (h.returnRead result).stream = h.stream ∧
        (h.returnRead result).wrote = h.wrote := by
    cases result with
    | ready bytes =>
      rw [hBytes bytes rfl]
      exact ⟨⟨rfl, rfl, rfl, by simp [returnRead, arrived]⟩, rfl, rfl⟩
    | failed | pending => exact ⟨⟨rfl, rfl, rfl, rfl⟩, rfl, rfl⟩
  apply hReturn
  intro bytes
  rcases hReceived with rfl | rfl
  · simp only [Stream.endRead]
    split_ifs <;> simp
  · simp only [Stream.endRead]
    split_ifs <;> simp

/-- What the place of a call says about its stream, on any connection. -/
structure Proper (h : Handle) : Prop where
  callOk : h.CallOk
  reading : ∀ received, h.call = .reading received →
    ¬ h.stream.HasLeftover ∧ (received = .empty ∨ received = .closed)
  sending : ∀ payload, h.call = .sending payload → h.stream.finSent = false
  closing : h.call = .closing → h.stream.finSent = false
  debit : ∀ n, h.call = .debiting n → n ≤ maxFramePayload

/-- A call in another place than these says nothing. -/
theorem Proper.of_call (hOk : h.CallOk) (hReading : ∀ received, h.call ≠ .reading received)
    (hSending : ∀ payload, h.call ≠ .sending payload) (hClosing : h.call ≠ .closing)
    (hDebit : ∀ n, h.call ≠ .debiting n) : h.Proper where
  callOk := hOk
  reading received hCall := absurd hCall (hReading received)
  sending payload hCall := absurd hCall (hSending payload)
  closing hCall := absurd hCall hClosing
  debit n hCall := absurd hCall (hDebit n)

/-- The stream changes, and what the place of the call says about it does not. -/
theorem Proper.stream {s : Stream} (hProper : h.Proper) (hId : s.id = h.stream.id)
    (hCredit : h.stream.peerCredit ≤ s.peerCredit) (hFin : s.finSent = h.stream.finSent)
    (hLeft : s.HasLeftover ↔ h.stream.HasLeftover) : Proper { h with stream := s } where
  callOk := by
    have hOk := hProper.callOk
    unfold CallOk at hOk ⊢
    cases hCall : h.call with
    | opening frame =>
      rw [hCall] at hOk
      obtain ⟨target, hFrame⟩ := hOk
      exact ⟨target, by rw [hFrame, Handle.id, Handle.id, hId]⟩
    | sending payload =>
      rw [hCall] at hOk
      exact ⟨hOk.1, hOk.2.1, hOk.2.2.trans hCredit⟩
    | debiting n =>
      rw [hCall] at hOk
      exact hOk.trans hCredit
    | _ => trivial
  reading received hCall :=
    ⟨fun hTail => (hProper.reading received hCall).1 (hLeft.mp hTail),
      (hProper.reading received hCall).2⟩
  sending payload hCall := hFin.trans (hProper.sending payload hCall)
  closing hCall := hFin.trans (hProper.closing hCall)
  debit := hProper.debit

theorem proper_kept : Connection.Kept Proper where
  new id call hCall := by
    rcases hCall with rfl | rfl | ⟨target, rfl⟩
    · exact .of_call trivial (by simp) (by simp) (by simp) (by simp)
    · exact .of_call trivial (by simp) (by simp) (by simp) (by simp)
    · exact .of_call ⟨target, rfl⟩ (by simp) (by simp) (by simp) (by simp)
  rest h _ := ⟨.of_call trivial (by simp) (by simp) (by simp) (by simp),
    .of_call trivial (by simp) (by simp) (by simp) (by simp)⟩
  push h payload hProper := hProper.stream rfl (le_refl _) rfl Iff.rfl
  setPeerFin h hProper := hProper.stream rfl (le_refl _) rfl Iff.rfl
  grant h credit s hGrant hProper := by
    unfold Stream.grant at hGrant
    split_ifs at hGrant
    cases hGrant
    exact hProper.stream rfl (Nat.le_add_right _ _) rfl Iff.rfl
  tearDown h detail hProper := hProper.stream rfl (le_refl _) rfl Iff.rfl

variable {frame : Option Frame} {step : CallStep}

theorem proper_took (hProper : h.Proper) (hTook : Took ctx h step h' frame) : h'.Proper := by
  have hRest (s : Stream) : Proper { h with call := .idle, stream := s } :=
    .of_call trivial (by simp) (by simp) (by simp) (by simp)
  cases hTook with
  | stays => exact hProper
  | reads room hCall =>
    obtain hRead | ⟨delta, hRead⟩ | ⟨-, hLeft, -, hRead⟩ := read_cases ctx h room
    · exact .of_call (by rw [CallOk, hRead]; trivial) (by simp [hRead]) (by simp [hRead])
        (by simp [hRead]) (by simp [hRead])
    · exact .of_call (by rw [CallOk, hRead]; trivial) (by simp [hRead]) (by simp [hRead])
        (by simp [hRead]) (by simp [hRead])
    · rw [hRead]
      cases ctx.hasSender <;> exact ⟨trivial, by simp [hLeft], by simp, by simp, by simp⟩
  | endsRead hCall =>
    cases h.stream.endRead ctx.link _ <;>
      exact .of_call trivial (by simp [returnRead]) (by simp [returnRead]) (by simp [returnRead])
        (by simp [returnRead])
  | grants | returns => exact hRest h.stream
  | defers | debits | finishes => exact hRest _
  | checks | closes | closesUnsent | drops =>
    exact .of_call trivial (by simp) (by simp) (by simp) (by simp)
  | plans _ hOk hOpen => exact ⟨hOk, by simp, fun _ _ => hOpen, by simp, by simp⟩
  | @sends payload hCall =>
    have hOk := hProper.callOk
    unfold CallOk at hOk
    rw [hCall] at hOk
    refine ⟨hOk.2.2, by simp, by simp, by simp, fun n hDebit => ?_⟩
    rw [← Call.debiting.inj hDebit]
    exact hOk.2.1
  | shuts _ hOpen => exact ⟨trivial, by simp, by simp, fun _ => hOpen, by simp⟩

/-- What a call does to the bytes of its stream. -/
theorem took_same (hProper : h.Proper) (hTook : Took ctx h step h' frame) :
    SameStream h h' ∧ h'.wrote = h.wrote ++ frame.toList.flatMap Frame.bytes := by
  have hQuiet (wrote : List UInt8) : wrote = wrote ++ (none.toList.flatMap Frame.bytes) := by simp
  cases hTook with
  | stays => exact ⟨.refl h, hQuiet _⟩
  | reads room =>
    obtain ⟨hSame, -, hWrote⟩ := read_same ctx h room
    exact ⟨hSame, by rw [hWrote]; exact hQuiet _⟩
  | endsRead hCall =>
    obtain ⟨hSame, -, hWrote⟩ := endRead_same ctx.link (hProper.reading _ hCall).2
    exact ⟨hSame, by rw [hWrote]; exact hQuiet _⟩
  | grants => exact ⟨⟨rfl, rfl, rfl, rfl⟩, by simp [Frame.bytes]⟩
  | sends => exact ⟨⟨rfl, rfl, rfl, rfl⟩, by simp [Frame.bytes]⟩
  | closes => exact ⟨⟨rfl, rfl, rfl, rfl⟩, by simp [Frame.bytes]⟩
  | _ => exact ⟨⟨rfl, rfl, rfl, rfl⟩, hQuiet _⟩

/-- Only the last step of `poll_shutdown` sets `fin_sent`. -/
theorem took_finSent (hTook : Took ctx h step h' frame) (hProper : h.Proper)
    (hFin : h'.stream.finSent = true) :
    h.stream.finSent = true ∨ (step = .finish ∧ h.call = .finishing) := by
  cases hTook with
  | reads room => exact Or.inl ((read_same ctx h room).2.1.symm.trans hFin)
  | endsRead hCall =>
    rw [(endRead_same ctx.link (hProper.reading _ hCall).2).2.1] at hFin
    exact Or.inl hFin
  | finishes hCall => exact Or.inr ⟨rfl, hCall⟩
  | _ => exact Or.inl hFin

theorem took_stays_finSent (hTook : Took ctx h step h' frame) (hProper : h.Proper)
    (hFin : h.stream.finSent = true) :
    h'.stream.finSent = true := by
  cases hTook with
  | reads room => exact (read_same ctx h room).2.1.trans hFin
  | endsRead hCall =>
    rw [(endRead_same ctx.link (hProper.reading _ hCall).2).2.1]
    exact hFin
  | finishes => rfl
  | _ => exact hFin

/-- What a call queues, as long as somebody takes it. -/
theorem took_output (hProper : h.Proper) (hQueue : ctx.queue ≠ .closed)
    (hTook : Took ctx h step h' frame) : Output h h' frame := by
  cases hTook with
  | stays => exact .quiet rfl
  | reads room hCall =>
    refine .quiet ?_
    have hFin : (h.read ctx room).stream.finSent = h.stream.finSent := (read_same ctx h room).2.1
    obtain hRead | ⟨delta, hRead⟩ | ⟨-, -, -, hRead⟩ := read_cases ctx h room
    · simp [closedOut, hFin, hRead, hCall]
    · simp [closedOut, hFin, hRead, hCall]
    · simp [closedOut, hRead, hCall]
  | endsRead hCall =>
    refine .quiet ?_
    cases h.stream.endRead ctx.link _ <;> simp [closedOut, returnRead, hCall]
  | grants hCall => exact .window _ hCall (by simp [closedOut, hCall])
  | defers hCall => exact .quiet (by simp [closedOut, hCall, Stream.deferGrant])
  | returns _ hCall =>
    refine .quiet ?_
    cases hPlace : h.call <;> simp_all [closedOut, returnable]
  | checks buf hCall => exact .quiet (by simp [closedOut, hCall])
  | plans hCall => exact .quiet (by simp [closedOut, hCall])
  | @sends payload hCall =>
    have hOk := hProper.callOk
    unfold CallOk at hOk
    rw [hCall] at hOk
    have hOpen := hProper.sending payload hCall
    exact .data payload (List.ne_nil_of_length_pos hOk.1) (by simp [closedOut, hOpen, hCall])
      (by simp [closedOut, hOpen])
  | debits hCall => exact .quiet (by simp [closedOut, hCall, Stream.debit])
  | shuts hCall => exact .quiet (by simp [closedOut, hCall])
  | closes hCall =>
    exact .close (by simp [closedOut, hProper.closing hCall, hCall]) (by simp [closedOut])
  | closesUnsent _ hClosed => exact absurd hClosed hQueue
  | finishes hCall => exact .quiet (by simp [closedOut, hCall, Stream.finish])
  | drops hCall => exact .quiet (by simp [closedOut, hCall])

/-- What a read changes: bytes go to the caller, and never none of them. -/
theorem read_bytes (ctx : Context) (room : Nat) (hChunks : ∀ chunk ∈ h.stream.inbound, chunk ≠ []) :
    h.received <+: (h.read ctx room).received ∧
      (∀ chunk ∈ (h.read ctx room).stream.inbound, chunk ∈ h.stream.inbound) ∧
      (h.read ctx room).ended = h.ended := by
  have hTake {bytes : List UInt8} (hPos : 0 < room) (hNe : bytes ≠ []) :
      (bytes.take room).isEmpty = false := by
    rw [List.isEmpty_eq_false_iff, ← List.length_pos_iff, List.length_take]
    exact Nat.lt_min.mpr ⟨hPos, List.length_pos_iff.mpr hNe⟩
  unfold read
  obtain ⟨rfl, hStart⟩ | ⟨⟨hPos, hLeft⟩, hStart⟩ | ⟨chunk, rest, hPos, hLeft, hInbound, hStart⟩ |
    ⟨hPos, hLeft, hInbound, hStart⟩ := h.stream.startRead_cases room ctx.hasSender
  · rw [hStart]
    exact ⟨List.prefix_append _ _, fun _ hMem => hMem, by simp⟩
  · have hNe : h.stream.leftover ≠ [] := by
      rw [← List.length_pos_iff, Stream.leftover, List.length_drop]
      exact Nat.sub_pos_of_lt hLeft
    rw [hStart]
    exact ⟨List.prefix_append _ _, fun _ hMem => hMem, by simp [hTake hPos hNe]⟩
  · have hNe : chunk ≠ [] := hChunks chunk (by simp [hInbound])
    rw [hStart]
    refine ⟨List.prefix_append _ _, fun other hMem => ?_, by simp [hTake hPos hNe]⟩
    rw [Stream.accountConsumed_inbound, Stream.takeChunk_inbound] at hMem
    rw [hInbound]
    exact List.mem_cons_of_mem _ hMem
  · rw [hStart]
    cases ctx.hasSender <;> exact ⟨List.prefix_rfl, fun _ hMem => hMem, rfl⟩

theorem endRead_received (link : Link) {received : Stream.Received}
    (hReceived : received = .empty ∨ received = .closed) :
    (h.returnRead (h.stream.endRead link received)).received = h.received := by
  rcases hReceived with rfl | rfl
  · simp only [Stream.endRead]
    split_ifs <;> simp [returnRead]
  · simp only [Stream.endRead]
    split_ifs <;> simp [returnRead]

theorem took_received (hProper : h.Proper) (hChunks : ∀ chunk ∈ h.stream.inbound, chunk ≠ [])
    (hTook : Took ctx h step h' frame) :
    h.received <+: h'.received := by
  cases hTook with
  | reads room => exact (read_bytes ctx room hChunks).1
  | endsRead hCall =>
    rw [endRead_received ctx.link (hProper.reading _ hCall).2]
  | _ => exact List.prefix_rfl

theorem took_chunks (hProper : h.Proper) (hChunks : ∀ chunk ∈ h.stream.inbound, chunk ≠ [])
    (hTook : Took ctx h step h' frame) :
    ∀ chunk ∈ h'.stream.inbound, chunk ≠ [] := by
  cases hTook with
  | reads room =>
    exact fun chunk hMem => hChunks chunk ((read_bytes ctx room hChunks).2.1 chunk hMem)
  | endsRead hCall =>
    rw [(endRead_same ctx.link (hProper.reading _ hCall).2).2.1]
    exact hChunks
  | _ => exact hChunks

/-- How a read comes to return the end of the stream. -/
theorem took_ended (hProper : h.Proper) (hChunks : ∀ chunk ∈ h.stream.inbound, chunk ≠ [])
    (hTook : Took ctx h step h' frame) (hEnded : h'.ended = true) :
    h.ended = true ∨ (step = .endRead ∧ h.call = .reading .empty ∧ h.stream.peerFin = true) ∨
      (step = .endRead ∧ h.call = .reading .closed ∧ h.stream.reset = false ∧
        ctx.link.dead = false) := by
  cases hTook with
  | reads room => exact Or.inl ((read_bytes ctx room hChunks).2.2.symm.trans hEnded)
  | endsRead hCall =>
    rcases (hProper.reading _ hCall).2 with rfl | rfl
    · simp only [Stream.endRead] at hEnded
      split_ifs at hEnded with hPeer
      · exact Or.inr (Or.inl ⟨rfl, hCall, hPeer⟩)
      · exact Or.inl hEnded
    · simp only [Stream.endRead] at hEnded
      split_ifs at hEnded with hReset hDead
      · exact Or.inl hEnded
      · exact Or.inl hEnded
      · exact Or.inr (Or.inr ⟨rfl, hCall, by simpa using hReset, by simpa using hDead⟩)
  | _ => exact Or.inl hEnded

/-- How a read comes to find its queue closed. -/
theorem took_closed (hTook : Took ctx h step h' frame) (hClosed : h'.call = .reading .closed) :
    (h' = h ∧ h.call = .reading .closed) ∨ (ctx.hasSender = false ∧ h'.stream.inbound = []) := by
  cases hTook with
  | stays => exact Or.inl ⟨rfl, hClosed⟩
  | reads room =>
    obtain hRead | ⟨delta, hRead⟩ | ⟨-, -, hInbound, hRead⟩ := read_cases ctx h room
    · simp [hRead] at hClosed
    · simp [hRead] at hClosed
    · rw [hRead] at hClosed ⊢
      cases hSender : ctx.hasSender with
      | true => simp [hSender] at hClosed
      | false => exact Or.inr ⟨rfl, hInbound⟩
  | endsRead =>
    revert hClosed
    cases h.stream.endRead ctx.link _ <;> simp [returnRead]
  | _ => simp at hClosed

end Handle

end WaitAgent.Mux
