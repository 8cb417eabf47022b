import WaitAgent.Verified.HashMap
import WaitAgent.Verified.Run

/-!
# Threads over a shared core

Any number of threads, each at a point of its own program, act on one shared core; a
label says which of them goes on and what it draws from its environment, so that a run
is one interleaving.
-/

namespace WaitAgent.Verified

/-- Programs of threads: where a thread begins, what it does next, and what happens to
the core from outside.  A thread that ends has no next point. -/
structure ThreadMachine (Core Request Local Draw Outside : Type) where
  start : Core → Request → Local
  behave : Nat → Draw → Core → Local → Core × Option Local
  react : Core → Outside → Core

/-- The core and the threads under way. -/
structure Threads (Core Local : Type) where
  core : Core
  threads : HashMap Nat Local := ∅

inductive ThreadLabel (Request Draw Outside : Type) where
  | start (id : Nat) (request : Request)
  | advance (id : Nat) (draw : Draw)
  | outside (event : Outside)

namespace ThreadMachine

variable {Core Request Local Draw Outside : Type}
  (m : ThreadMachine Core Request Local Draw Outside)

/-- The threads after one of them went on. -/
def next (threads : HashMap Nat Local) (id : Nat) : Option Local → HashMap Nat Local
  | some l => threads.insert id l
  | none => threads.erase id

def step (s : Threads Core Local) : ThreadLabel Request Draw Outside → Threads Core Local
  | .start id request =>
      if id ∈ s.threads then s
      else { s with threads := s.threads.insert id (m.start s.core request) }
  | .advance id draw =>
      match s.threads.lookup id with
      | none => s
      | some l =>
          let result := m.behave id draw s.core l
          { core := result.1, threads := next s.threads id result.2 }
  | .outside event => { s with core := m.react s.core event }

theorem lookup_next (threads : HashMap Nat Local) (id other : Nat) (l : Option Local) :
    (next threads id l).lookup other = if other = id then l else threads.lookup other := by
  cases l with
  | none => exact AList.lookup_erase_eq_ite _ _ _
  | some l => exact AList.lookup_insert_eq_ite _ _ _ _

/-- The only thread goes on or ends. -/
theorem lookup_next_of_only {threads : HashMap Nat Local} {id : Nat} {l : Local}
    (h : ∀ other, threads.lookup other = if other = id then some l else none)
    (l' : Option Local) (other : Nat) :
    (next threads id l').lookup other = if other = id then l' else none := by
  rw [lookup_next, h]
  split <;> rfl

end ThreadMachine

end WaitAgent.Verified
