import Mathlib.Data.List.Infix

/-!
# Runs of a machine with total steps

A component is given by a state and a total `step`; whatever its environment
decides (the outcome of a send, the clock, which message arrives next) is part
of the label, so that one list of labels is one run.  The rules below are the
only way runs are reasoned about: an invariant is carried over the whole run,
a condition can be required of each step, and a property that each step keeps
exactly under a condition holds all along a run exactly when each step meets
that condition.
-/

namespace WaitAgent.Verified

variable {σ ε : Type*}

/-- The state after the steps `es`, taken in order from `s`. -/
def run (step : σ → ε → σ) (s : σ) (es : List ε) : σ :=
  es.foldl step s

/-- Each step of the run meets `P` in the state in which it is taken. -/
def EachStep (step : σ → ε → σ) (P : σ → ε → Prop) : σ → List ε → Prop
  | _, [] => True
  | s, e :: es => P s e ∧ EachStep step P (step s e) es

/-- `Q` holds in the first state of the run and after each of its steps. -/
def Always (step : σ → ε → σ) (Q : σ → Prop) : σ → List ε → Prop
  | s, [] => Q s
  | s, e :: es => Q s ∧ Always step Q (step s e) es

variable {step : σ → ε → σ} {P : σ → ε → Prop} {I Q : σ → Prop}

@[simp] theorem run_nil (s : σ) : run step s [] = s := rfl

@[simp] theorem run_cons (s : σ) (e : ε) (es : List ε) :
    run step s (e :: es) = run step (step s e) es := rfl

@[simp] theorem run_append (s : σ) (es fs : List ε) :
    run step s (es ++ fs) = run step (run step s es) fs := by
  simp [run, List.foldl_append]

instance EachStep.decidable [∀ s e, Decidable (P s e)] :
    ∀ (s : σ) (es : List ε), Decidable (EachStep step P s es)
  | _, [] => isTrue trivial
  | s, e :: es =>
      have := EachStep.decidable (step s e) es
      inferInstanceAs (Decidable (P s e ∧ EachStep step P (step s e) es))

instance Always.decidable [∀ s, Decidable (Q s)] :
    ∀ (s : σ) (es : List ε), Decidable (Always step Q s es)
  | s, [] => inferInstanceAs (Decidable (Q s))
  | s, e :: es =>
      have := Always.decidable (step s e) es
      inferInstanceAs (Decidable (Q s ∧ Always step Q (step s e) es))

/-! ## Invariants -/

/-- What every step keeps holds after every run. -/
theorem run_invariant (hStep : ∀ s e, I s → I (step s e)) (es : List ε) :
    ∀ s, I s → I (run step s es) := by
  induction es with
  | nil => exact fun s hs => hs
  | cons e es ih => exact fun s hs => ih (step s e) (hStep s e hs)

/-- The same, for the steps that the run takes. -/
theorem run_invariant_mem (es : List ε) (hStep : ∀ s, ∀ e ∈ es, I s → I (step s e)) :
    ∀ s, I s → I (run step s es) := by
  induction es with
  | nil => exact fun s hs => hs
  | cons e es ih =>
    intro s hs
    exact ih (fun s e hMem => hStep s e (List.mem_cons_of_mem _ hMem)) (step s e)
      (hStep s e List.mem_cons_self hs)

/-- A counter that a step raises by at most one counts at most the steps. -/
theorem count_run_le (count : σ → Nat) (hStep : ∀ s e, count (step s e) ≤ count s + 1)
    (es : List ε) (s : σ) : count (run step s es) ≤ count s + es.length := by
  induction es generalizing s with
  | nil => exact Nat.le_refl _
  | cons e es ih =>
    have hFirst := hStep s e
    have hRest := ih (step s e)
    rw [run_cons, List.length_cons]
    omega

theorem EachStep.of_forall : ∀ (es : List ε) (s : σ), (∀ e ∈ es, ∀ t, P t e) →
    EachStep step P s es := by
  intro es
  induction es with
  | nil => exact fun s _ => trivial
  | cons e es ih =>
    intro s hAll
    exact ⟨hAll e List.mem_cons_self s, ih _ fun f hMem => hAll f (List.mem_cons_of_mem _ hMem)⟩

theorem eachStep_append (es fs : List ε) (s : σ) :
    EachStep step P s (es ++ fs) ↔ EachStep step P s es ∧ EachStep step P (run step s es) fs := by
  induction es generalizing s with
  | nil => simp [EachStep]
  | cons e es ih => simp only [List.cons_append, EachStep, ih, run_cons, and_assoc]

/-- What the steps meeting `P` meet as well, in the states that they keep to. -/
theorem EachStep.imp {P' : σ → ε → Prop} (hStep : ∀ s e, I s → P s e → I (step s e))
    (hImp : ∀ s e, I s → P s e → P' s e) :
    ∀ (es : List ε) (s : σ), EachStep step P s es → I s → EachStep step P' s es := by
  intro es
  induction es with
  | nil => exact fun s _ _ => trivial
  | cons e es ih =>
    intro s hEach hs
    exact ⟨hImp s e hs hEach.1, ih (step s e) hEach.2 (hStep s e hs hEach.1)⟩

/-- Conditions that agree in every state an invariant allows agree on runs. -/
theorem eachStep_iff {P' : σ → ε → Prop} (hI : ∀ s e, I s → I (step s e))
    (hStep : ∀ s e, I s → (P s e ↔ P' s e)) :
    ∀ (es : List ε) (s : σ), I s → (EachStep step P s es ↔ EachStep step P' s es) := by
  intro es
  induction es with
  | nil => exact fun s _ => Iff.rfl
  | cons e es ih => exact fun s hs => and_congr (hStep s e hs) (ih _ (hI s e hs))

/-! ## Properties of all states of a run -/

/-- `Always` speaks of the states after every initial part of the run. -/
theorem always_iff (es : List ε) (s : σ) :
    Always step Q s es ↔ ∀ fs, fs <+: es → Q (run step s fs) := by
  induction es generalizing s with
  | nil => simp [Always]
  | cons e es ih =>
    simp only [Always, ih]
    constructor
    · rintro ⟨hs, hRest⟩ fs hfs
      cases fs with
      | nil => exact hs
      | cons f fs =>
        obtain ⟨rfl, hfs'⟩ := List.cons_prefix_cons.mp hfs
        exact hRest fs hfs'
    · intro hAll
      refine ⟨hAll [] (List.nil_prefix), fun fs hfs => ?_⟩
      exact hAll (e :: fs) (List.cons_prefix_cons.mpr ⟨rfl, hfs⟩)

theorem Always.first {es : List ε} {s : σ} (h : Always step Q s es) : Q s := by
  cases es with
  | nil => exact h
  | cons e es => exact h.1

/-- A run whose steps meet `P` only visits states in which `Q` holds, when `Q`
follows from what such steps keep. -/
theorem Always.of_eachStep (hStep : ∀ s e, I s → P s e → I (step s e))
    (hQ : ∀ s, I s → Q s) :
    ∀ (es : List ε) (s : σ), EachStep step P s es → I s → Always step Q s es := by
  intro es
  induction es with
  | nil => exact fun s _ hs => hQ s hs
  | cons e es ih =>
    intro s hEach hs
    exact ⟨hQ s hs, ih (step s e) hEach.2 (hStep s e hs hEach.1)⟩

/-- The exact rule: under an invariant `I`, if a step from a state with `Q`
leads to a state with `Q` exactly when it meets `P`, then `Q` holds all along a
run exactly when each step meets `P`. -/
theorem always_iff_eachStep (hI : ∀ s e, I s → I (step s e))
    (hStep : ∀ s e, I s → Q s → (Q (step s e) ↔ P s e)) :
    ∀ (es : List ε) (s : σ), I s → Q s →
      (Always step Q s es ↔ EachStep step P s es) := by
  intro es
  induction es with
  | nil => exact fun s _ hQ => ⟨fun _ => trivial, fun _ => hQ⟩
  | cons e es ih =>
    intro s hs hQ
    have hNext := hStep s e hs hQ
    constructor
    · rintro ⟨-, hRest⟩
      have hQ' := hRest.first
      exact ⟨hNext.mp hQ', (ih _ (hI s e hs) hQ').mp hRest⟩
    · rintro ⟨hP, hRest⟩
      have hQ' := hNext.mpr hP
      exact ⟨hQ, (ih _ (hI s e hs) hQ').mpr hRest⟩

end WaitAgent.Verified
