import WaitAgent.Mux.Frame
import WaitAgent.Verified.Run

/-!
# One multiplexed stream

`Stream` is a `MuxStream` together with the state that it shares with its table entry.
The calls on it are cut where other tasks can run: the functions below are the critical
sections, and a call on a connection takes them one after another.  Wakers are left out,
since a call may be tried again at any time.

The second half of the module is a stream on its own: its calls run through, and chunks,
grants and closes arrive in any order.
-/

namespace WaitAgent.Mux

open Verified

/-! ## State -/

/-- What the relay said when it tore a stream down. -/
structure MuxResetError where
  code : Nat
  message : String
  deriving DecidableEq

structure Stream where
  id : Nat
  /-- What the peer lets us send. -/
  peerCredit : Nat := defaultStreamWindow
  finSent : Bool := false
  /-- Consumed and not yet granted back. -/
  consumedAccum : Nat := 0
  /-- Chunks that wait to be read. -/
  inbound : List (List UInt8) := []
  peerFin : Bool := false
  reset : Bool := false
  resetDetail : Option MuxResetError := none
  readLeftover : List UInt8 := []
  readOffset : Nat := 0
  deriving DecidableEq

/-- What a stream sees of its connection. -/
structure Link where
  dead : Bool
  closeReason : Option String

inductive StreamError where
  /-- The relay tore the stream down; `ConnectionReset` to readers. -/
  | readReset (streamId : Nat) (detail : Option MuxResetError)
  /-- The same to writers, `BrokenPipe`. -/
  | writeReset (streamId : Nat) (detail : Option MuxResetError)
  | connectionClosed (reason : String)
  | streamClosed (streamId : Nat)
  deriving DecidableEq

def Link.deadReason (link : Link) : String :=
  link.closeReason.getD "connection closed"

def Link.deadError (link : Link) : StreamError :=
  .connectionClosed link.deadReason

inductive ReadResult where
  /-- Nothing at all stands for the end of the stream. -/
  | ready (bytes : List UInt8)
  | failed (error : StreamError)
  | pending
  deriving DecidableEq

/-- What `try_send` on the outbound queue says. -/
inductive TrySend where
  | queued
  | full
  | closed
  deriving DecidableEq

namespace Stream

/-! ## Reading -/

/-- The tail of the last chunk waits for the reader. -/
def HasLeftover (s : Stream) : Prop :=
  s.readOffset < s.readLeftover.length

instance (s : Stream) : Decidable s.HasLeftover :=
  inferInstanceAs (Decidable (_ < _))

/-- The bytes of that tail. -/
def leftover (s : Stream) : List UInt8 :=
  s.readLeftover.drop s.readOffset

/-- The first critical section of `account_consumed`: the credit to grant, 0 for none. -/
def accountConsumed (s : Stream) (consumed : Nat) : Nat × Stream :=
  let accum := s.consumedAccum + consumed
  if accum ≥ windowGrantThreshold then (accum, { s with consumedAccum := 0 })
  else (0, { s with consumedAccum := accum })

/-- The second one, when the grant did not fit the queue. -/
def deferGrant (s : Stream) (delta : Nat) : Stream :=
  { s with consumedAccum := s.consumedAccum + delta }

/-- What `poll_read` meets in the buffers. -/
inductive Received where
  | copied (bytes : List UInt8) (delta : Nat)
  | empty
  /-- Nobody holds the sending half any more. -/
  | closed
  deriving DecidableEq

/-- `n` bytes of the first chunk are taken, and the rest of it is kept. -/
def takeChunk (s : Stream) (n : Nat) (chunk : List UInt8) (rest : List (List UInt8)) : Stream :=
  if n < chunk.length then { s with inbound := rest, readLeftover := chunk, readOffset := n }
  else { s with inbound := rest }

/-- The tail of a chunk after another `room` bytes of it. -/
def skipLeftover (s : Stream) (room : Nat) : Stream :=
  { s with readOffset := min (s.readOffset + room) s.readLeftover.length }

/-- `poll_read` up to the grant, or up to the look at the flags. -/
def startRead (s : Stream) (room : Nat) (hasSender : Bool) : Received × Stream :=
  if room = 0 then (.copied [] 0, s)
  else if s.HasLeftover then
    (.copied (s.readLeftover.extract s.readOffset (s.skipLeftover room).readOffset) 0,
      s.skipLeftover room)
  else
    match s.inbound with
    | chunk :: rest =>
        let n := min room chunk.length
        let counted := (s.takeChunk n chunk rest).accountConsumed n
        (.copied (chunk.take n) counted.1, counted.2)
    | [] => (if hasSender then .empty else .closed, s)

/-- The flags are looked at after the buffers. -/
def endRead (s : Stream) (link : Link) : Received → ReadResult
  | .copied bytes _ => .ready bytes
  | .empty => if s.peerFin then .ready [] else .pending
  | .closed =>
      if s.reset then .failed (.readReset s.id s.resetDetail)
      else if link.dead then .failed link.deadError
      else .ready []

theorem accountConsumed_sum (s : Stream) (consumed : Nat) :
    (s.accountConsumed consumed).1 + (s.accountConsumed consumed).2.consumedAccum =
      s.consumedAccum + consumed := by
  simp only [accountConsumed]
  split_ifs <;> simp

theorem accountConsumed_lt (s : Stream) (consumed : Nat) :
    (s.accountConsumed consumed).2.consumedAccum < windowGrantThreshold := by
  simp only [accountConsumed]
  split_ifs with hReached
  · exact (by decide : 0 < windowGrantThreshold)
  · exact Nat.lt_of_not_le hReached

section

variable (s : Stream) (consumed : Nat)

@[simp] theorem accountConsumed_id : (s.accountConsumed consumed).2.id = s.id := by
  simp only [accountConsumed]
  split_ifs <;> rfl

@[simp] theorem accountConsumed_inbound : (s.accountConsumed consumed).2.inbound = s.inbound := by
  simp only [accountConsumed]
  split_ifs <;> rfl

@[simp] theorem accountConsumed_leftover :
    (s.accountConsumed consumed).2.leftover = s.leftover := by
  simp only [accountConsumed]
  split_ifs <;> rfl

end

section

variable (s : Stream) (n : Nat) (chunk : List UInt8) (rest : List (List UInt8))

@[simp] theorem takeChunk_id : (s.takeChunk n chunk rest).id = s.id := by
  unfold takeChunk
  split_ifs <;> rfl

@[simp] theorem takeChunk_inbound : (s.takeChunk n chunk rest).inbound = rest := by
  unfold takeChunk
  split_ifs <;> rfl

/-- What is not taken of a chunk is its tail. -/
theorem takeChunk_leftover {s : Stream} (h : ¬ s.HasLeftover) :
    (s.takeChunk n chunk rest).leftover = chunk.drop n := by
  unfold takeChunk leftover
  split_ifs with hShort
  · rfl
  · rw [List.drop_eq_nil_of_le (Nat.le_of_not_lt h),
      List.drop_eq_nil_of_le (Nat.le_of_not_lt hShort)]

end

@[simp] theorem takeChunk_consumedAccum (s : Stream) (n : Nat) (chunk : List UInt8)
    (rest : List (List UInt8)) : (s.takeChunk n chunk rest).consumedAccum = s.consumedAccum := by
  unfold takeChunk
  split_ifs <;> rfl

/-- The four ways a read can go. -/
theorem startRead_cases (s : Stream) (room : Nat) (hasSender : Bool) :
    room = 0 ∧ s.startRead room hasSender = (.copied [] 0, s) ∨
    (0 < room ∧ s.HasLeftover) ∧ s.startRead room hasSender =
      (.copied (s.leftover.take room) 0, s.skipLeftover room) ∨
    (∃ chunk rest, 0 < room ∧ ¬ s.HasLeftover ∧ s.inbound = chunk :: rest ∧
      s.startRead room hasSender =
        (.copied (chunk.take room)
          ((s.takeChunk (min room chunk.length) chunk rest).accountConsumed
            (min room chunk.length)).1,
          ((s.takeChunk (min room chunk.length) chunk rest).accountConsumed
            (min room chunk.length)).2)) ∨
    (0 < room ∧ ¬ s.HasLeftover ∧ s.inbound = [] ∧
      s.startRead room hasSender = (if hasSender then .empty else .closed, s)) := by
  unfold startRead
  by_cases hRoom : room = 0
  · exact Or.inl ⟨hRoom, if_pos hRoom⟩
  · rw [if_neg hRoom]
    have hPos : 0 < room := Nat.pos_of_ne_zero hRoom
    by_cases hLeft : s.HasLeftover
    · refine Or.inr (Or.inl ⟨⟨hPos, hLeft⟩, ?_⟩)
      have hOffset : s.readOffset < s.readLeftover.length := hLeft
      have hBytes : s.readLeftover.extract s.readOffset (s.skipLeftover room).readOffset =
          s.leftover.take room := by
        rw [List.extract_eq_take_drop, leftover, List.take_eq_take_iff, List.length_drop]
        simp only [skipLeftover]
        omega
      rw [if_pos hLeft, hBytes]
    · rw [if_neg hLeft]
      cases hInbound : s.inbound with
      | nil => exact Or.inr (Or.inr (Or.inr ⟨hPos, hLeft, rfl, rfl⟩))
      | cons chunk rest =>
        refine Or.inr (Or.inr (Or.inl ⟨chunk, rest, hPos, hLeft, rfl, ?_⟩))
        dsimp only
        rw [← List.take_eq_take_min]

/-! ## Writing -/

/-- The flags that `poll_write` looks at before it takes the lock. -/
def checkWrite (s : Stream) (link : Link) : Option StreamError :=
  if s.reset then some (.writeReset s.id s.resetDetail)
  else if link.dead then some link.deadError
  else none

/-- How much may be sent of `buf`; an error, or 0 when the credit is used up. -/
def allowance (s : Stream) (buf : List UInt8) : Except StreamError Nat :=
  if s.finSent then .error (.streamClosed s.id)
  else .ok (min (min buf.length maxFramePayload) s.peerCredit)

/-- The second critical section of `poll_write`. -/
def debit (s : Stream) (n : Nat) : Stream :=
  { s with peerCredit := s.peerCredit - n }

def finish (s : Stream) : Stream :=
  { s with finSent := true }

/-! ## What the reader task does to a stream -/

def push (s : Stream) (payload : List UInt8) : Stream :=
  { s with inbound := s.inbound ++ [payload] }

def setPeerFin (s : Stream) : Stream :=
  { s with peerFin := true }

/-- `none` if the credit leaves 64 bits. -/
def grant (s : Stream) (credit : Nat) : Option Stream :=
  if s.peerCredit + credit < 2 ^ 64 then some { s with peerCredit := s.peerCredit + credit }
  else none

/-- The reason stands before the flag is set. -/
def tearDown (s : Stream) (detail : Option MuxResetError) : Stream :=
  { s with resetDetail := detail.orElse fun _ => s.resetDetail, reset := true }

end Stream

/-! ## A stream on a live connection -/

/-- A stream with the sum of the bytes handed to its caller and of the credit put into
`Window` frames. -/
structure Reading where
  stream : Stream
  /-- The table entry is there. -/
  listed : Bool := true
  copied : Nat := 0
  granted : Nat := 0

/-- What happens to a stream; whether the outbound queue is full comes with a call. -/
inductive StreamEvent where
  | read (room : Nat) (full : Bool)
  | write (buf : List UInt8) (full : Bool)
  | shutdown (full : Bool)
  | data (payload : List UInt8)
  | close
  | window (credit : Nat)
  | tearDown (detail : Option MuxResetError)

namespace Reading

/-- A call of `poll_read` on a live connection, from its first line to its last. -/
def pollRead (r : Reading) (room : Nat) (full : Bool) : Reading :=
  match r.stream.startRead room r.listed with
  | (.copied bytes delta, s) =>
      if delta = 0 then { r with stream := s, copied := r.copied + bytes.length }
      else if full then { r with stream := s.deferGrant delta, copied := r.copied + bytes.length }
      else { r with stream := s, copied := r.copied + bytes.length, granted := r.granted + delta }
  | (_, s) => { r with stream := s }

def pollWrite (r : Reading) (buf : List UInt8) (full : Bool) : Reading :=
  if r.stream.reset then r
  else
    match r.stream.allowance buf with
    | .error _ => r
    | .ok n => if n = 0 ∨ full then r else { r with stream := r.stream.debit n }

def pollShutdown (r : Reading) (full : Bool) : Reading :=
  if r.stream.finSent ∨ full then r else { r with stream := r.stream.finish }

/-- A frame for a stream that is not listed, or that its state forbids, ends the
connection; here it is not delivered. -/
def step (r : Reading) : StreamEvent → Reading
  | .read room full => r.pollRead room full
  | .write buf full => r.pollWrite buf full
  | .shutdown full => r.pollShutdown full
  | .data payload =>
      if r.listed ∧ r.stream.peerFin = false ∧ r.stream.inbound.length < inboundChunkQueue then
        { r with stream := r.stream.push payload }
      else r
  | .close =>
      if r.listed ∧ r.stream.peerFin = false then
        { r with stream := r.stream.setPeerFin, listed := !r.stream.finSent }
      else r
  | .window credit =>
      if r.listed then { r with stream := (r.stream.grant credit).getD r.stream } else r
  | .tearDown detail =>
      if r.listed then { r with stream := r.stream.tearDown detail, listed := false } else r

def start (id : Nat) : Reading :=
  { stream := { id } }

/-- Every byte handed to the caller is granted back, or counted to be. -/
def Conserved (r : Reading) : Prop :=
  r.copied = r.granted + r.stream.consumedAccum

/-- The call is served from the tail of the last chunk. -/
def ServedFromLeftover (r : Reading) : StreamEvent → Prop
  | .read room _ => 0 < room ∧ r.stream.HasLeftover
  | _ => False

/-- What a call copies, it counts, unless it is served from a tail. -/
theorem conserved_pollRead_iff {r : Reading} (h : r.Conserved) (room : Nat) (full : Bool) :
    (r.pollRead room full).Conserved ↔ ¬ (0 < room ∧ r.stream.HasLeftover) := by
  unfold Conserved at h ⊢
  unfold pollRead
  obtain ⟨rfl, hStart⟩ | ⟨hServed, hStart⟩ | ⟨chunk, rest, hRoom, hLeft, hInbound, hStart⟩ |
    ⟨hRoom, hLeft, hInbound, hStart⟩ := r.stream.startRead_cases room r.listed
  · rw [hStart]
    simpa using h
  · have hBytes : 0 < (r.stream.leftover.take room).length := by
      have hOffset : r.stream.readOffset < r.stream.readLeftover.length := hServed.2
      rw [List.length_take, Stream.leftover, List.length_drop]
      omega
    rw [hStart]
    simp only [if_pos, Stream.skipLeftover, hServed, not_true_eq_false, iff_false, and_self]
    omega
  · rw [hStart]
    have hSum := (r.stream.takeChunk (min room chunk.length) chunk rest).accountConsumed_sum
      (min room chunk.length)
    rw [Stream.takeChunk_consumedAccum] at hSum
    simp only [hLeft, and_false, not_false_eq_true, iff_true]
    split_ifs <;> simp only [Stream.deferGrant, List.length_take] <;> omega
  · rw [hStart]
    simp only [hLeft, and_false, not_false_eq_true, iff_true]
    cases r.listed <;> exact h

/-- Nothing else touches what is counted. -/
theorem step_counts {r : Reading} {e : StreamEvent} (h : ∀ room full, e ≠ .read room full) :
    (r.step e).copied = r.copied ∧ (r.step e).granted = r.granted ∧
      (r.step e).stream.consumedAccum = r.stream.consumedAccum := by
  cases e with
  | read room full => exact absurd rfl (h room full)
  | write buf full =>
    simp only [step, pollWrite]
    split_ifs
    · exact ⟨rfl, rfl, rfl⟩
    · split
      · exact ⟨rfl, rfl, rfl⟩
      · split_ifs <;> exact ⟨rfl, rfl, rfl⟩
  | shutdown full =>
    simp only [step, pollShutdown]
    split_ifs <;> exact ⟨rfl, rfl, rfl⟩
  | data payload | close | tearDown detail =>
    simp only [step]
    split_ifs <;> exact ⟨rfl, rfl, rfl⟩
  | window credit =>
    simp only [step, Stream.grant]
    split_ifs <;> exact ⟨rfl, rfl, rfl⟩

theorem conserved_step_iff {r : Reading} (h : r.Conserved) (e : StreamEvent) :
    (r.step e).Conserved ↔ ¬ r.ServedFromLeftover e := by
  by_cases hRead : ∃ room full, e = .read room full
  · obtain ⟨room, full, rfl⟩ := hRead
    exact conserved_pollRead_iff h room full
  · have hOther : ∀ room full, e ≠ .read room full := fun room full hEq => hRead ⟨room, full, hEq⟩
    have hNot : ¬ r.ServedFromLeftover e := by
      cases e with
      | read room full => exact absurd rfl (hOther room full)
      | _ => exact id
    obtain ⟨hCopied, hGranted, hAccum⟩ := step_counts hOther
    simp only [hNot, not_false_eq_true, iff_true]
    rw [Conserved, hCopied, hGranted, hAccum]
    exact h

/-- Receive credit is conserved all along a run exactly if no read is served from the tail
of a chunk. -/
theorem receive_credit_conserved_iff (id : Nat) (events : List StreamEvent) :
    Always step Conserved (start id) events ↔
      EachStep step (fun r e => ¬ r.ServedFromLeftover e) (start id) events :=
  always_iff_eachStep (I := fun _ => True) (fun _ _ _ => trivial)
    (fun _ e _ h => conserved_step_iff h e) events
    (start id) trivial rfl

/-- A chunk of two bytes, read with a buffer of one byte: the second byte is never granted
back. -/
theorem leftover_byte_withheld :
    ¬ (run step (start 1) [.data [1, 2], .read 1 false, .read 1 false]).Conserved := by
  unfold Conserved
  decide

end Reading

end WaitAgent.Mux
