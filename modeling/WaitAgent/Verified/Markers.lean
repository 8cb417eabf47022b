import Mathlib.Data.List.Infix

/-!
# Markers

Text between a start and a stop marker.  A marker begins with an element that it has
nowhere else, so two markers cannot overlap: a stop marker in `start ++ body ++ stop`
is the last one or lies in the body (`framed_iff`).  A reader that takes what stands
between the markers for a block, and everything else for itself, takes a framed text
for one block (`outside_of_framed`).
-/

namespace WaitAgent.Verified

/-- A marker: its first element does not come again. -/
structure Marker (α : Type*) where
  first : α
  rest : List α
  fresh : first ∉ rest

namespace Marker

variable {α : Type*}

def toList (m : Marker α) : List α :=
  m.first :: m.rest

variable {m start stop : Marker α} {body x y : List α}

theorem eq_nil_of_toList_eq {before after : List α}
    (h : m.toList = before ++ m.first :: after) : before = [] := by
  cases before with
  | nil => rfl
  | cons a before =>
    rw [toList, List.cons_append, List.cons.injEq] at h
    exact absurd (by rw [h.2]; simp) m.fresh

/-- A marker at the end is not part of one that begins before it. -/
theorem isInfix_of_append_eq (hMore : y ≠ []) (h : body ++ m.toList = x ++ (m.toList ++ y)) :
    m.toList <:+: body := by
  have hPos := List.length_pos_iff.mpr hMore
  obtain ⟨c, -, hLong⟩ | ⟨c, rfl, hRest⟩ := List.append_eq_append_iff.mp h
  · have hLength := congrArg List.length hLong
    simp only [List.length_append] at hLength
    omega
  · obtain ⟨d, rfl, -⟩ | ⟨d, hOne, hOther⟩ := List.append_eq_append_iff.mp hRest
    · exact ⟨x, d, by rw [List.append_assoc]⟩
    · cases d with
      | nil => exact ⟨x, [], by rw [hOne]; simp⟩
      | cons a d =>
        -- the marker would begin again inside itself
        have hFirst : a = m.first := by
          rw [toList, List.cons_append, List.cons.injEq] at hOther
          exact hOther.1.symm
        subst hFirst
        rw [eq_nil_of_toList_eq hOne, List.nil_append] at hOne
        have hLength := congrArg List.length (hOne.symm.trans hOther)
        simp only [List.length_append] at hLength
        omega

/-- No other marker of the same length and first element begins inside the start
marker. -/
theorem exists_eq_append (hFirst : stop.first = start.first)
    (hLength : stop.rest.length = start.rest.length) (hNe : stop.rest ≠ start.rest)
    (h : start.toList ++ body = x ++ (stop.toList ++ y)) : ∃ z, x = start.toList ++ z := by
  obtain ⟨c, hx, -⟩ | ⟨c, hStart, hRest⟩ := List.append_eq_append_iff.mp h
  · exact ⟨c, hx⟩
  · cases c with
    | nil => exact ⟨[], by rw [hStart]; simp⟩
    | cons a c =>
      have hHead : a = start.first := by
        rw [toList, List.cons_append, List.cons_append, List.cons.injEq] at hRest
        exact hRest.1.symm.trans hFirst
      subst hHead
      rw [eq_nil_of_toList_eq hStart, List.nil_append] at hStart
      rw [← hStart, toList, toList, List.cons_append, List.cons_append, List.cons.injEq] at hRest
      exact absurd (List.append_inj hRest.2 hLength).1 hNe

/-! ## Framed texts -/

/-- The text stands between the markers, and the stop marker comes only at the end. -/
def Framed (start stop : Marker α) (l : List α) : Prop :=
  (∃ body, l = start.toList ++ body ++ stop.toList) ∧
    ∀ x y, l = x ++ (stop.toList ++ y) → y = []

/-- Between the markers, a text is framed if it has no stop marker in it. -/
theorem framed_iff (hFirst : stop.first = start.first)
    (hLength : stop.rest.length = start.rest.length) (hNe : stop.rest ≠ start.rest) :
    Framed start stop (start.toList ++ body ++ stop.toList) ↔ ¬stop.toList <:+: body := by
  constructor
  · rintro ⟨-, hOnly⟩ ⟨x, y, rfl⟩
    have hNil := hOnly (start.toList ++ x) (y ++ stop.toList) (by simp)
    simp [toList] at hNil
  · intro hNot
    refine ⟨⟨body, rfl⟩, fun x y h => ?_⟩
    rw [List.append_assoc] at h
    obtain ⟨z, rfl⟩ := exists_eq_append hFirst hLength hNe h
    by_contra hMore
    rw [List.append_assoc, List.append_cancel_left_eq] at h
    exact hNot (isInfix_of_append_eq hMore h)

/-! ## A reader of blocks -/

section

variable [DecidableEq α]

/-- What a reader takes for itself: all that does not stand between markers.  The
elements still to skip belong to a marker. -/
def outside (start stop : Marker α) : (inside : Bool) → (skip : Nat) → List α → List α
  | _, _, [] => []
  | inside, skip + 1, _ :: l => outside start stop inside skip l
  | false, 0, a :: l =>
      if start.toList.isPrefixOf (a :: l) then outside start stop true start.rest.length l
      else a :: outside start stop false 0 l
  | true, 0, a :: l =>
      if stop.toList.isPrefixOf (a :: l) then outside start stop false stop.rest.length l
      else outside start stop true 0 l

theorem outside_skip (inside : Bool) (before l : List α) :
    outside start stop inside before.length (before ++ l) = outside start stop inside 0 l := by
  induction before with
  | nil => rfl
  | cons a before ih => exact ih

/-- Nothing is taken of a block that the stop marker ends. -/
theorem outside_of_block {l : List α} (hOnly : ∀ x y, l = x ++ (stop.toList ++ y) → y = []) :
    outside start stop true 0 l = [] := by
  induction l with
  | nil => rfl
  | cons a l ih =>
    rw [outside]
    by_cases hStop : stop.toList.isPrefixOf (a :: l) = true
    · obtain ⟨y, hy⟩ := List.isPrefixOf_iff_prefix.mp hStop
      have hNil := hOnly [] y hy.symm
      rw [hNil, toList, List.cons_append, List.cons.injEq] at hy
      rw [if_pos hStop, ← hy.2, outside_skip]
      rfl
    · rw [if_neg hStop]
      exact ih fun x y h => hOnly (a :: x) y (by rw [h, List.cons_append])

theorem outside_of_framed {l : List α} (h : Framed start stop l) :
    outside start stop false 0 l = [] := by
  obtain ⟨⟨body, rfl⟩, hOnly⟩ := h
  have hStart : start.toList.isPrefixOf (start.first :: (start.rest ++ (body ++ stop.toList))) :=
    List.isPrefixOf_iff_prefix.mpr ⟨body ++ stop.toList, rfl⟩
  rw [List.append_assoc, toList, List.cons_append, outside, if_pos hStart, outside_skip]
  apply outside_of_block
  intro x y hBlock
  exact hOnly (start.toList ++ x) y (by rw [List.append_assoc, hBlock, List.append_assoc])

end

end Marker

end WaitAgent.Verified
