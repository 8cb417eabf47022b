
/-!
# The observer of a remote terminal

A viewer keeps the screen of a peer's terminal by feeding it the output of the
peer.  The peer numbers its output, and the observer remembers the highest number
it has fed: output with a number that is not above it is taken for a duplicate.

A terminal is modelled by what it was fed, which determines its screen.  The
answers it gives to queries in the output are left out, as nothing but a test
reads them.
-/

namespace WaitAgent.Remote

structure RemoteObserverRuntime where
  lastOutputSeq : Option Nat := none
  hasVisibleOutput : Bool := false
  bootstrapComplete : Bool := false
  /-- the pieces of output the terminal was fed -/
  terminal : List (List UInt8) := []
  deriving DecidableEq, Repr

namespace RemoteObserverRuntime

/-- Forget the highest number; the screen stays. -/
def clearOutputSeq (o : RemoteObserverRuntime) : RemoteObserverRuntime :=
  { o with bootstrapComplete := false, lastOutputSeq := none }

/-- The output would be taken for a duplicate. -/
def isDuplicate (o : RemoteObserverRuntime) (outputSeq : Nat) : Bool :=
  o.lastOutputSeq.any fun last => outputSeq ≤ last

def feedRawOutput (o : RemoteObserverRuntime) (outputSeq : Nat) (bytes : List UInt8) :
    RemoteObserverRuntime :=
  if o.isDuplicate outputSeq then
    o
  else
    { o with
      terminal := o.terminal ++ [bytes]
      lastOutputSeq := some outputSeq
      hasVisibleOutput := true }

variable {o : RemoteObserverRuntime} {outputSeq : Nat}

theorem isDuplicate_eq_false (h : ∀ last, o.lastOutputSeq = some last → last < outputSeq) :
    o.isDuplicate outputSeq = false := by
  cases hLast : o.lastOutputSeq with
  | none => simp [isDuplicate, hLast]
  | some last => simpa [isDuplicate, hLast] using h last hLast

end RemoteObserverRuntime

end WaitAgent.Remote
