
/-!
# Computations with checks

A computation that can hit a fault (an index outside a row, an addition that
overflows) is a value of `Except`.  `Yields x P` is its total correctness: no
fault is hit, and the result meets `P`.  The rules below follow the shape of
programs: sequence, loops that are taken a number of times, and loops over a
list, each of the latter with an invariant.
-/

namespace WaitAgent.Verified

variable {ε α β σ : Type} {P : α → Prop} {Q : β → Prop}

/-- The computation hits no fault and its result meets `P`. -/
def Yields (x : Except ε α) (P : α → Prop) : Prop :=
  ∃ a, x = .ok a ∧ P a

theorem Yields.ok {a : α} (h : P a) : Yields (.ok a : Except ε α) P :=
  ⟨a, rfl, h⟩

theorem Yields.pure {a : α} (h : P a) : Yields (pure a : Except ε α) P :=
  ⟨a, rfl, h⟩

theorem Yields.bind {x : Except ε α} {f : α → Except ε β} (hx : Yields x P)
    (hf : ∀ a, P a → Yields (f a) Q) : Yields (x >>= f) Q := by
  obtain ⟨a, rfl, ha⟩ := hx
  exact hf a ha

theorem Yields.imp {P' : α → Prop} {x : Except ε α} (hx : Yields x P)
    (hImp : ∀ a, P a → P' a) : Yields x P' := by
  obtain ⟨a, rfl, ha⟩ := hx
  exact ⟨a, rfl, hImp a ha⟩

theorem Yields.map {x : Except ε α} {f : α → β} (hx : Yields x fun a => Q (f a)) :
    Yields (x.map f) Q := by
  obtain ⟨a, rfl, ha⟩ := hx
  exact ⟨f a, rfl, ha⟩

theorem Yields.ite {c : Prop} [Decidable c] {x y : Except ε α} (hx : c → Yields x P)
    (hy : ¬ c → Yields y P) : Yields (if c then x else y) P := by
  by_cases hc : c
  · rw [if_pos hc]
    exact hx hc
  · rw [if_neg hc]
    exact hy hc

/-- Do `f` so many times. -/
def repeatM (f : σ → Except ε σ) : Nat → σ → Except ε σ
  | 0, s => .ok s
  | n + 1, s => f s >>= repeatM f n

theorem repeatM_succ (f : σ → Except ε σ) (n : Nat) (s : σ) :
    repeatM f (n + 1) s = f s >>= repeatM f n := rfl

theorem repeatM_one (f : σ → Except ε σ) (s : σ) : repeatM f 1 s = f s := by
  rw [repeatM_succ]
  cases f s <;> rfl

theorem Yields.repeatM {f : σ → Except ε σ} {I : σ → Prop}
    (hStep : ∀ s, I s → Yields (f s) I) :
    ∀ (n : Nat) (s : σ), I s → Yields (repeatM f n s) I := by
  intro n
  induction n with
  | zero => exact fun s hs => .ok hs
  | succ n ih => exact fun s hs => (hStep s hs).bind ih

theorem Yields.foldlM {step : σ → α → Except ε σ} {I : σ → Prop} :
    ∀ (l : List α) (s : σ), (∀ s a, a ∈ l → I s → Yields (step s a) I) → I s →
      Yields (l.foldlM step s) I := by
  intro l
  induction l with
  | nil => exact fun s _ hs => .pure hs
  | cons a l ih =>
    intro s hStep hs
    rw [List.foldlM_cons]
    apply (hStep s a List.mem_cons_self hs).bind
    exact fun s' hs' => ih s' (fun s b hb => hStep s b (List.mem_cons_of_mem a hb)) hs'

/-! ## Faults that are tolerated -/

/-- As `Yields`, but where `F` holds there may be a fault instead of a result. -/
def YieldsUnless (F : Prop) (x : Except ε α) (P : α → Prop) : Prop :=
  Yields x P ∨ F ∧ ∃ fault, x = .error fault

section

variable {F : Prop} {x : Except ε α}

theorem Yields.tolerant (h : Yields x P) : YieldsUnless F x P :=
  .inl h

theorem YieldsUnless.ok {a : α} (h : P a) : YieldsUnless F (.ok a : Except ε α) P :=
  (Yields.ok h).tolerant

theorem YieldsUnless.yields (h : YieldsUnless F x P) (hF : ¬ F) : Yields x P :=
  h.resolve_right fun hFault => hF hFault.1

theorem YieldsUnless.bind {f : α → Except ε β} (hx : YieldsUnless F x P)
    (hf : ∀ a, P a → YieldsUnless F (f a) Q) : YieldsUnless F (x >>= f) Q := by
  rcases hx with ⟨a, rfl, ha⟩ | ⟨hF, fault, rfl⟩
  · exact hf a ha
  · exact .inr ⟨hF, fault, rfl⟩

theorem YieldsUnless.map {f : α → β} (hx : YieldsUnless F x fun a => Q (f a)) :
    YieldsUnless F (x.map f) Q := by
  rcases hx with hYields | ⟨hF, fault, rfl⟩
  · exact .inl hYields.map
  · exact .inr ⟨hF, fault, rfl⟩

theorem YieldsUnless.ite {c : Prop} [Decidable c] {y : Except ε α}
    (hx : c → YieldsUnless F x P) (hy : ¬ c → YieldsUnless F y P) :
    YieldsUnless F (if c then x else y) P := by
  by_cases hc : c
  · rw [if_pos hc]
    exact hx hc
  · rw [if_neg hc]
    exact hy hc

end

end WaitAgent.Verified
