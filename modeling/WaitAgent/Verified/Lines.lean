import Mathlib.Data.List.DropRight
import WaitAgent.Verified.Text

/-!
# Texts of lines and fields

What the standard library offers to take a text apart again: the fields between
separators, the lines, and the text without the white space at its ends.  A text
that was put together from parts without the separator comes apart into these
parts; the lemmas also say what happens when the parts contain it.
-/

namespace WaitAgent.Verified

/-! ## White space -/

/-- `char::is_whitespace`. -/
def isWhitespace (c : Char) : Bool :=
  (decide ('\t' ≤ c) && decide (c ≤ '\r')) || c == ' ' || c == '\u0085' || c == '\u00a0' ||
    c == '\u1680' || (decide ('\u2000' ≤ c) && decide (c ≤ '\u200a')) || c == '\u2028' ||
    c == '\u2029' || c == '\u202f' || c == '\u205f' || c == '\u3000'

/-- `str::trim`. -/
def trim (s : String) : String :=
  String.ofList ((s.toList.dropWhile isWhitespace).rdropWhile isWhitespace)

/-- Nothing but white space. -/
def IsBlank (l : List Char) : Prop :=
  ∀ c ∈ l, isWhitespace c = true

/-- White space after a visible text is taken off. -/
theorem trim_append {s spaces : String} {first last : Char} (hHead : s.toList.head? = some first)
    (hFirst : isWhitespace first = false) (hEnd : s.toList.getLast? = some last)
    (hLast : isWhitespace last = false) (hSpaces : IsBlank spaces.toList) :
    trim (s ++ spaces) = s := by
  obtain ⟨rest, hCons⟩ := List.head?_eq_some_iff.mp hHead
  obtain ⟨init, hConcat⟩ := List.getLast?_eq_some_iff.mp hEnd
  have hDrop : (s ++ spaces).toList.dropWhile isWhitespace = s.toList ++ spaces.toList := by
    rw [String.toList_append, hCons, List.cons_append,
      List.dropWhile_cons_of_neg (by simp [hFirst])]
  have hReversed : spaces.toList.reverse.dropWhile isWhitespace = [] := by
    refine List.dropWhile_eq_nil_iff.mpr fun c hMem => ?_
    exact hSpaces c (List.mem_reverse.mp hMem)
  rw [trim, hDrop, List.rdropWhile, List.reverse_append, List.dropWhile_append, hReversed, hConcat,
    List.reverse_concat]
  simp [hLast, ← hConcat]

/-! ## Fields -/

/-- `str::split` with a character. -/
def splitChar (c : Char) (s : String) : List String :=
  (s.toList.splitOn c).map String.ofList

theorem mem_intercalate_of_ne {α : Type*} {a c : α} (h : a ≠ c) (parts : List (List α)) :
    a ∈ [c].intercalate parts ↔ ∃ part ∈ parts, a ∈ part := by
  induction parts with
  | nil => simp
  | cons part parts ih =>
    cases parts with
    | nil => simp
    | cons next rest =>
      rw [List.intercalate_cons_cons, List.mem_append, List.mem_append, ih]
      simp [h]

/-- Fields without the separator are found again. -/
theorem splitChar_intercalate {c : Char} {fields : List String} (hNe : fields ≠ [])
    (h : ∀ field ∈ fields, c ∉ field.toList) :
    splitChar c ((String.singleton c).intercalate fields) = fields := by
  have hSplit : ([c].intercalate (fields.map String.toList)).splitOn c
      = fields.map String.toList := by
    refine List.splitOn_intercalate c (fun l hMem => ?_) (by simpa using hNe)
    obtain ⟨field, hField, rfl⟩ := List.mem_map.mp hMem
    exact h field hField
  rw [splitChar, String.toList_intercalate, String.toList_singleton, hSplit, List.map_map]
  exact List.map_id'' (fun field => String.ofList_toList) fields

/-! ## Ends -/

/-- The text ends in a visible character. -/
def EndsVisible (l : List Char) : Prop :=
  ∃ x, l.getLast? = some x ∧ isWhitespace x = false

theorem EndsVisible.append {l : List Char} (h : EndsVisible l) (before : List Char) :
    EndsVisible (before ++ l) := by
  obtain ⟨x, hLast, hVisible⟩ := h
  exact ⟨x, by rw [List.getLast?_append, hLast]; rfl, hVisible⟩

/-! ## Lines -/

/-- A line without the carriage return before its end. -/
def stripCr (line : List Char) : List Char :=
  if line.getLast? = some '\r' then line.dropLast else line

/-- `BufRead::lines`.  Every line but the last was ended by a line break; the last
one counts if it is not empty. -/
def lines (s : String) : List String :=
  let segments := s.toList.splitOn '\n'
  (segments.dropLast.map stripCr ++ (segments.getLast?.filter (!·.isEmpty)).toList).map
    String.ofList

theorem EndsVisible.stripCr_eq {line : List Char} (h : EndsVisible line) : stripCr line = line := by
  obtain ⟨x, hLast, hVisible⟩ := h
  rw [stripCr, if_neg]
  rw [hLast]
  rintro ⟨rfl⟩
  exact absurd hVisible (by decide)

/-! ## Reading that can fail -/

/-- A reader that succeeds has succeeded at each of its steps. -/
theorem bind_eq_ok {ε α β : Type} {x : Except ε α} {f : α → Except ε β} {b : β} :
    x >>= f = .ok b ↔ ∃ a, x = .ok a ∧ f a = .ok b := by
  cases x with
  | error e => simp [bind, Except.bind]
  | ok a => simp [bind, Except.bind]

/-- What each step keeps holds after all of them. -/
theorem foldlM_invariant {ε σ α : Type} {f : σ → α → Except ε σ} {I : σ → Prop}
    (hStep : ∀ s a s', I s → f s a = .ok s' → I s') {l : List α} {s s' : σ} (hs : I s)
    (h : l.foldlM f s = .ok s') : I s' := by
  induction l generalizing s with
  | nil =>
    cases h
    exact hs
  | cons a l ih =>
    obtain ⟨next, hNext, hRest⟩ := bind_eq_ok.mp h
    exact ih (hStep s a next hs hNext) hRest

end WaitAgent.Verified
