import Mathlib.Algebra.Group.Nat.Defs
import Mathlib.Data.List.Basic

/-!
# Strings as programs use them

The string operations of the standard library that matter for identifiers:
splitting at the last separator, removing a fixed head, joining with a
separator, reading and printing decimal numbers, and the debug form of optional
values.  All are defined on character lists, so that they evaluate on literals,
and each has the equation that proofs use.
-/

namespace WaitAgent.Verified

/-! ## Splitting at the last separator -/

/-- `l` cut at the last occurrence of `c`, which is dropped. -/
def rsplitOnceList {α : Type*} [DecidableEq α] (c : α) : List α → Option (List α × List α)
  | [] => none
  | a :: l =>
      match rsplitOnceList c l with
      | some (before, after) => some (a :: before, after)
      | none => if a = c then some ([], l) else none

section

variable {α : Type*} [DecidableEq α] {c : α}

theorem rsplitOnceList_eq_none_iff {l : List α} :
    rsplitOnceList c l = none ↔ c ∉ l := by
  induction l with
  | nil => simp [rsplitOnceList]
  | cons a l ih =>
    rw [rsplitOnceList, List.mem_cons, not_or]
    cases hRest : rsplitOnceList c l with
    | none =>
      have hNot := ih.mp hRest
      simp [hNot, eq_comm]
    | some p =>
      have hMem : c ∈ l := by
        by_contra hNot
        simp [ih.mpr hNot] at hRest
      simp [hMem]

/-- Without a separator in its last part, a list splits where it was put
together. -/
theorem rsplitOnceList_append {before after : List α} (hAfter : c ∉ after) :
    rsplitOnceList c (before ++ c :: after) = some (before, after) := by
  induction before with
  | nil => simp [rsplitOnceList, rsplitOnceList_eq_none_iff.mpr hAfter]
  | cons a before ih => simp [rsplitOnceList, ih]

/-- The two parts, and the separator between them, are the list again. -/
theorem eq_append_of_rsplitOnceList {l before after : List α}
    (h : rsplitOnceList c l = some (before, after)) :
    l = before ++ c :: after ∧ c ∉ after := by
  induction l generalizing before with
  | nil => simp [rsplitOnceList] at h
  | cons a l ih =>
    rw [rsplitOnceList] at h
    cases hRest : rsplitOnceList c l with
    | some p =>
      simp only [hRest, Option.some.injEq, Prod.mk.injEq] at h
      obtain ⟨rfl, rfl⟩ := h
      obtain ⟨rfl, hAfter⟩ := ih (hRest.trans rfl)
      exact ⟨rfl, hAfter⟩
    | none =>
      simp only [hRest] at h
      split at h
      · rename_i hEq
        simp only [Option.some.injEq, Prod.mk.injEq] at h
        obtain ⟨rfl, rfl⟩ := h
        exact ⟨by simp [hEq], rsplitOnceList_eq_none_iff.mp hRest⟩
      · simp at h

end

/-- `str::rsplit_once` with a character. -/
def rsplitOnce (c : Char) (s : String) : Option (String × String) :=
  (rsplitOnceList c s.toList).map fun p => (String.ofList p.1, String.ofList p.2)

theorem rsplitOnce_append {c : Char} {before after : String}
    (hAfter : c ∉ after.toList) :
    rsplitOnce c (before ++ String.singleton c ++ after) = some (before, after) := by
  simp [rsplitOnce, rsplitOnceList_append hAfter]

/-! ## Fixed heads and joins -/

/-- `str::strip_prefix`. -/
def stripPrefix (head s : String) : Option String :=
  if head.toList.isPrefixOf s.toList then
    some (String.ofList (s.toList.drop head.toList.length))
  else
    none

/-! ## Numbers -/

/-- `str::parse::<u64>`: an optional plus sign, then decimal digits only, and a
value of at most 64 bits. -/
def parseU64 (s : String) : Option Nat :=
  let digits :=
    match s.toList with
    | '+' :: rest => rest
    | chars => chars
  if digits.isEmpty || !digits.all Char.isDigit then
    none
  else
    let n := Nat.ofDigitChars 10 digits 0
    if n < 2 ^ 64 then some n else none

/-- `str::parse::<u16>`. -/
def parseU16 (s : String) : Option Nat :=
  (parseU64 s).filter (· < 2 ^ 16)

/-- A printed number has digits only. -/
theorem isDigit_of_mem_toString {n : Nat} {c : Char} (h : c ∈ (toString n).toList) :
    c.isDigit := by
  rw [Nat.toString_eq_repr, Nat.toList_repr] at h
  exact Nat.isDigit_of_mem_toDigits (by decide) (by decide) h

theorem notMem_toString {n : Nat} {c : Char} (hc : c.isDigit = false) :
    c ∉ (toString n).toList := by
  intro h
  simp [isDigit_of_mem_toString h] at hc

theorem parseU64_digits {digits : List Char} (hNil : digits ≠ [])
    (hAll : digits.all Char.isDigit = true) (h : Nat.ofDigitChars 10 digits 0 < 2 ^ 64) :
    parseU64 (String.ofList digits) = some (Nat.ofDigitChars 10 digits 0) := by
  have hPlus : ∀ rest, digits ≠ '+' :: rest := by
    intro rest hEq
    rw [hEq] at hAll
    simp at hAll
  unfold parseU64
  rw [String.toList_ofList]
  split
  · exact absurd rfl (hPlus _)
  · simp only [List.isEmpty_eq_false_iff.mpr hNil, hAll, h, Bool.not_true, Bool.or_self,
      Bool.false_eq_true, ↓reduceIte]

/-- A number that is printed with zeros in front is read back. -/
theorem parseU64_padded {n : Nat} (h : n < 2 ^ 64) (k : Nat) :
    parseU64 (String.ofList (List.replicate k '0' ++ Nat.toDigits 10 n)) = some n := by
  have hAll : (List.replicate k '0' ++ Nat.toDigits 10 n).all Char.isDigit = true := by
    simp only [List.all_append, Bool.and_eq_true, List.all_eq_true]
    refine ⟨fun c hMem => ?_, fun c => Nat.isDigit_of_mem_toDigits (by decide) (by decide)⟩
    rw [List.eq_of_mem_replicate hMem]
    rfl
  have hValue : Nat.ofDigitChars 10 (List.replicate k '0' ++ Nat.toDigits 10 n) 0 = n := by
    rw [Nat.ofDigitChars_append, Nat.ofDigitChars_replicate_zero]
    simp
  rw [parseU64_digits (by simp [Nat.toDigits_ne_nil]) hAll (by rwa [hValue]), hValue]

/-- A printed number is read back. -/
theorem parseU64_toString {n : Nat} (h : n < 2 ^ 64) : parseU64 (toString n) = some n := by
  rw [← String.ofList_toList (s := toString n), Nat.toString_eq_repr, Nat.toList_repr]
  exact parseU64_padded h 0

theorem parseU16_toString {n : Nat} (h : n < 65536) : parseU16 (toString n) = some n := by
  rw [parseU16, parseU64_toString (by omega), Option.filter_some, if_pos (by simpa using h)]

/-- Numbers are told apart by their digits. -/
theorem eq_of_toString_eq {m n : Nat} (h : toString m = toString n) : m = n := by
  have hDigits : Nat.toDigits 10 m = Nat.toDigits 10 n := by
    rw [← Nat.toList_repr, ← Nat.toList_repr, ← Nat.toString_eq_repr, h, Nat.toString_eq_repr]
  have hValue := congrArg (fun l => Nat.ofDigitChars 10 l 0) hDigits
  simpa using hValue

/-! ## Debug forms

`printable` stands for the Unicode tables that decide which characters are
shown as they are. -/

section

variable (printable : Char → Bool)

/-- One character of a string in its debug form. -/
def escapeDebug (c : Char) : String :=
  match c with
  | '\x00' => "\\0"
  | '\t' => "\\t"
  | '\r' => "\\r"
  | '\n' => "\\n"
  | '\\' => "\\\\"
  | '"' => "\\\""
  | c =>
      if printable c then
        String.singleton c
      else
        "\\u\x7b" ++ String.ofList (Nat.toDigits 16 c.toNat) ++ "\x7d"

/-- The `Debug` form of a string. -/
def debugString (s : String) : String :=
  "\"" ++ String.join (s.toList.map (escapeDebug printable)) ++ "\""

/-- The `Debug` form of an optional string. -/
def debugOptionString : Option String → String
  | none => "None"
  | some s => "Some(\"" ++ String.join (s.toList.map (escapeDebug printable)) ++ "\")"

end

/-- The `Debug` form of an optional number. -/
def debugOptionNat : Option Nat → String
  | none => "None"
  | some n => "Some(" ++ toString n ++ ")"

end WaitAgent.Verified
