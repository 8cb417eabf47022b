import Mathlib.Data.List.Basic

/-!
# Pieces of a sequence with end marks

Several producers write one after another to one sequence, and each puts a mark behind its
last item.  Cutting the sequence at the marks gives back what each has written; the last
piece may be without its mark.  The last part is about lists of producers of which only the
last one of a kind still changes.
-/

namespace WaitAgent.Verified

inductive Token (α : Type*) where
  | item (a : α)
  | fin

namespace Token

variable {α β : Type*}

/-- The items of a producer, and the mark once it is through. -/
def piece (items : List α) (closed : Bool) : List (Token α) :=
  items.map .item ++ if closed then [.fin] else []

/-- The items between the marks `k` and `k + 1`. -/
def segment : Nat → List (Token α) → List α
  | _, [] => []
  | 0, .item a :: ts => a :: segment 0 ts
  | k + 1, .item _ :: ts => segment (k + 1) ts
  | 0, .fin :: _ => []
  | k + 1, .fin :: ts => segment k ts

@[simp] theorem segment_nil (k : Nat) : segment k ([] : List (Token α)) = [] := by
  cases k <;> rfl

theorem piece_append (items more : List α) :
    piece (items ++ more) false = piece items false ++ more.map .item := by
  simp [piece]

theorem piece_close (items : List α) : piece items true = piece items false ++ [.fin] := by
  simp [piece]

theorem segment_zero_items (items : List α) (ts : List (Token α)) :
    segment 0 (items.map .item ++ ts) = items ++ segment 0 ts := by
  induction items with
  | nil => rfl
  | cons a items ih => simp [segment, ih]

theorem segment_succ_items (k : Nat) (items : List α) (ts : List (Token α)) :
    segment (k + 1) (items.map .item ++ ts) = segment (k + 1) ts := by
  induction items with
  | nil => rfl
  | cons a items ih => simp [segment, ih]

/-- Only the last producer may be at work.  Behind the marks that are there, `ts` goes on. -/
theorem segment_pieces (f : β → List α) (closed : β → Bool) (ts : List (Token α)) :
    ∀ (xs : List β), xs.Pairwise (fun x _ => closed x = true) → ∀ k : Nat,
      segment k (xs.flatMap (fun x => piece (f x) (closed x)) ++ ts) =
        xs[k]?.elim [] f ++
          if k < xs.countP closed then [] else segment (k - xs.countP closed) ts := by
  intro xs
  induction xs with
  | nil => simp
  | cons x xs ih =>
    intro hOnce k
    obtain ⟨hFirst, hRest⟩ := List.pairwise_cons.mp hOnce
    rw [List.flatMap_cons, List.append_assoc]
    cases hClosed : closed x with
    | true =>
      rw [piece, if_pos rfl, List.append_assoc, List.countP_cons_of_pos hClosed]
      cases k with
      | zero => simp [segment_zero_items, segment]
      | succ k =>
        rw [segment_succ_items, List.singleton_append, segment, ih hRest k]
        simp
    | false =>
      -- nobody comes behind one that is not through
      have hLast : xs = [] := by
        cases xs with
        | nil => rfl
        | cons y ys => exact absurd (hFirst y List.mem_cons_self) (by simp [hClosed])
      subst hLast
      cases k with
      | zero => simp [piece, segment_zero_items, hClosed]
      | succ k => simp [piece, segment_succ_items, hClosed]

end Token

/-! ## The last one of a kind -/

section

variable {α β : Type*} {p : β → Bool} {f : β → List α} {x y : β}

theorem flatMap_filter_set_same {xs : List β} {i : Nat} (hGet : xs[i]? = some x)
    (hKind : p y = p x) (hSame : p x = true → f y = f x) :
    ((xs.set i y).filter p).flatMap f = (xs.filter p).flatMap f := by
  induction xs generalizing i with
  | nil => rfl
  | cons z zs ih =>
    cases i with
    | zero =>
      cases hGet
      by_cases hp : p x = true
      · simp [hKind, hp, hSame hp]
      · simp [hKind, hp]
    | succ i =>
      have hRest := ih (i := i) hGet
      by_cases hp : p z = true
      · simp [hp, hRest]
      · simp [hp, hRest]

/-- What the last one of the kind adds comes last. -/
theorem flatMap_filter_set_grows {xs : List β} {i : Nat} {more : List α} (hGet : xs[i]? = some x)
    (hKind : p y = true) (hKindOld : p x = true)
    (hLast : ∀ j z, xs[j]? = some z → p z = true → j ≤ i) (hMore : f y = f x ++ more) :
    ((xs.set i y).filter p).flatMap f = (xs.filter p).flatMap f ++ more := by
  induction xs generalizing i with
  | nil => simp at hGet
  | cons z zs ih =>
    cases i with
    | zero =>
      cases hGet
      have hNone : zs.filter p = [] := by
        rw [List.filter_eq_nil_iff]
        intro w hMem hp
        obtain ⟨j, hAt⟩ := List.mem_iff_getElem?.mp hMem
        exact absurd (hLast (j + 1) w hAt hp) (by simp)
      simp [hKind, hKindOld, hNone, hMore]
    | succ i =>
      have hRest := ih (i := i) hGet fun j w hAt hp =>
        Nat.le_of_succ_le_succ (hLast (j + 1) w hAt hp)
      by_cases hp : p z = true
      · simp [hp, hRest]
      · simp [hp, hRest]

end

end WaitAgent.Verified
