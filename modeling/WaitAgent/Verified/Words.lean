import WaitAgent.Verified.Lines

/-!
# Lines of words

A line is read without the white space at its ends, and cut at a separator.  What was
written comes back if it begins and ends visibly and does not contain the separator.
-/

namespace WaitAgent.Verified

/-! ## White space at the end -/

theorem rdropWhile_of_endsVisible {l : List Char} (h : EndsVisible l) :
    l.rdropWhile isWhitespace = l := by
  obtain ⟨x, hLast, hVisible⟩ := h
  rw [List.rdropWhile_eq_self_iff]
  intro hNe
  rw [List.getLast?_eq_getLast_of_ne_nil hNe, Option.some.injEq] at hLast
  simp [hLast, hVisible]

theorem EndsVisible.ne_nil {l : List Char} (h : EndsVisible l) : l ≠ [] := by
  rintro rfl
  obtain ⟨x, hLast, -⟩ := h
  cases hLast

theorem endsVisible_rdropWhile {l : List Char} (h : ¬IsBlank l) :
    EndsVisible (l.rdropWhile isWhitespace) := by
  have hNe : l.rdropWhile isWhitespace ≠ [] := fun hNil => h (List.rdropWhile_eq_nil_iff.mp hNil)
  refine ⟨_, List.getLast?_eq_getLast_of_ne_nil hNe, ?_⟩
  simpa using List.rdropWhile_last_not isWhitespace l hNe

/-! ## Trimming -/

theorem mem_of_mem_trim {s : String} {c : Char} (h : c ∈ (trim s).toList) : c ∈ s.toList := by
  rw [trim, String.toList_ofList] at h
  exact (List.dropWhile_suffix _).subset (( List.rdropWhile_prefix _ _).subset h)

/-- A text that begins and ends visibly. -/
theorem trim_eq_self {l : List Char} {c : Char} (hFirst : isWhitespace c = false)
    (hEnd : EndsVisible (c :: l)) : trim (String.ofList (c :: l)) = String.ofList (c :: l) := by
  rw [trim, String.toList_ofList, List.dropWhile_cons_of_neg (by simp [hFirst]),
    rdropWhile_of_endsVisible hEnd]

/-- A trimmed text begins and ends visibly, if it is not empty. -/
theorem exists_cons_trim {s : String} (h : trim s ≠ "") :
    ∃ c rest, (trim s).toList = c :: rest ∧ isWhitespace c = false ∧ EndsVisible (c :: rest) := by
  have hBlank : ¬IsBlank (s.toList.dropWhile isWhitespace) := by
    intro hBlank
    apply h
    rw [trim, List.rdropWhile_eq_nil_iff.mpr hBlank]
  have hEnd := endsVisible_rdropWhile hBlank
  obtain ⟨c, rest, hCons⟩ := List.exists_cons_of_ne_nil hEnd.ne_nil
  have hTrim : (trim s).toList = c :: rest := by
    rw [trim, String.toList_ofList, hCons]
  refine ⟨c, rest, hTrim, ?_, hCons ▸ hEnd⟩
  -- the first character of what is left is the first one that was not dropped
  obtain ⟨more, hMore⟩ := List.rdropWhile_prefix isWhitespace (s.toList.dropWhile isWhitespace)
  rw [hCons, List.cons_append] at hMore
  have hHead := List.head_dropWhile_not isWhitespace (l := s.toList) (by simp [← hMore])
  simpa [← hMore] using hHead

theorem trim_trim (s : String) : trim (trim s) = trim s := by
  by_cases hEmpty : trim s = ""
  · rw [hEmpty]
    rfl
  · obtain ⟨c, rest, hCons, hFirst, hEnd⟩ := exists_cons_trim hEmpty
    have hText : trim s = String.ofList (c :: rest) := by
      rw [← hCons, String.ofList_toList]
    rw [hText, trim_eq_self hFirst hEnd]

/-! ## Cutting at a space -/

/-- `str::splitn` with two parts. -/
def splitOnce (c : Char) : List Char → List Char × Option (List Char)
  | [] => ([], none)
  | x :: l =>
      if x = c then ([], some l)
      else ((x :: (splitOnce c l).1), (splitOnce c l).2)

theorem splitOnce_append {c : Char} {a b : List Char} (h : c ∉ a) :
    splitOnce c (a ++ c :: b) = (a, some b) := by
  induction a with
  | nil => rw [List.nil_append, splitOnce, if_pos rfl]
  | cons x a ih =>
    rw [List.mem_cons, not_or] at h
    rw [List.cons_append, splitOnce, if_neg (Ne.symm h.1), ih h.2]

/-! ## Words -/

/-- Visible characters, and at least one. -/
structure IsVisible (w : List Char) : Prop where
  ne_nil : w ≠ []
  visible : ∀ c ∈ w, isWhitespace c = false

namespace IsVisible

variable {w : List Char}

theorem notMem (h : IsVisible w) {c : Char} (hc : isWhitespace c = true) : c ∉ w := by
  intro hMem
  rw [h.visible c hMem] at hc
  cases hc

theorem exists_cons (h : IsVisible w) : ∃ c rest, w = c :: rest ∧ isWhitespace c = false := by
  obtain ⟨c, rest, hCons⟩ := List.exists_cons_of_ne_nil h.ne_nil
  exact ⟨c, rest, hCons, h.visible c (by simp [hCons])⟩

theorem endsVisible (h : IsVisible w) : EndsVisible w :=
  ⟨_, List.getLast?_eq_getLast_of_ne_nil h.ne_nil, h.visible _ (List.getLast_mem h.ne_nil)⟩

end IsVisible

theorem isWhitespace_of_graphic {c : Char} (h : 0x20 < c.toNat ∧ c.toNat < 0x7f) :
    isWhitespace c = false := by
  have hAll : ∀ n < 0x7f, 0x20 < n → isWhitespace (Char.ofNat n) = false := by decide +kernel
  rw [← Char.ofNat_toNat c]
  exact hAll _ h.2 h.1

theorem isVisible_toString (n : Nat) : IsVisible (toString n).toList := by
  refine ⟨?_, fun c hc => ?_⟩
  · rw [Nat.toString_eq_repr, Nat.toList_repr]
    exact Nat.toDigits_ne_nil
  · have hDigit := isDigit_of_mem_toString hc
    have hZero : '0'.toNat = 48 := rfl
    have hNine : '9'.toNat = 57 := rfl
    rw [Char.isDigit_iff_toNat] at hDigit
    exact isWhitespace_of_graphic ⟨by omega, by omega⟩

/-- `str::split_whitespace`. -/
def words (l : List Char) : List (List Char) :=
  (l.splitOnP isWhitespace).filter (!·.isEmpty)

end WaitAgent.Verified
