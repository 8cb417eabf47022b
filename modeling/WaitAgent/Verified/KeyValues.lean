import WaitAgent.Verified.Words

/-!
# Files of keys and values

The subset of TOML that small configuration files keep to: a line is a key, an equals
sign and a value, a value in quotes has its special characters escaped, and lines that
are empty or begin with a number sign are skipped.  A value that was written is read
again, and a file of written lines is read line by line.
-/

namespace WaitAgent.Verified

/-! ## Quotes -/

def escapeChar (c : Char) : List Char :=
  match c with
  | '\\' => ['\\', '\\']
  | '"' => ['\\', '"']
  | '\n' => ['\\', 'n']
  | '\r' => ['\\', 'r']
  | '\t' => ['\\', 't']
  | c => [c]

/-- The value in quotes. -/
def quote (value : List Char) : List Char :=
  '"' :: (value.flatMap escapeChar ++ ['"'])

/-- What stands for itself after a backslash, and what does not. -/
def unescapeChar (c : Char) : Char :=
  match c with
  | 'n' => '\n'
  | 'r' => '\r'
  | 't' => '\t'
  | c => c

def unescape : List Char → List Char
  | [] => []
  | [c] => [c]
  | c :: d :: rest =>
      if c = '\\' then unescapeChar d :: unescape rest else c :: unescape (d :: rest)

/-- The text between the quotes of a value that begins with one; `none` if it does not
end with one. -/
def unquote (value : List Char) : Option (List Char) :=
  if value.getLast? = some '"' ∧ 2 ≤ value.length then some (unescape value.tail.dropLast)
  else none

theorem escapeChar_cases (c : Char) :
    c ≠ '\\' ∧ escapeChar c = [c] ∨ ∃ d, escapeChar c = ['\\', d] ∧ unescapeChar d = c := by
  unfold escapeChar
  split
  · exact .inr ⟨_, rfl, rfl⟩
  · exact .inr ⟨_, rfl, rfl⟩
  · exact .inr ⟨_, rfl, rfl⟩
  · exact .inr ⟨_, rfl, rfl⟩
  · exact .inr ⟨_, rfl, rfl⟩
  · next h _ _ _ _ => exact .inl ⟨h, rfl⟩

theorem unescape_cons {c : Char} (h : c ≠ '\\') (l : List Char) :
    unescape (c :: l) = c :: unescape l := by
  cases l with
  | nil => rfl
  | cons d rest => rw [unescape, if_neg h]

theorem unescape_flatMap (value : List Char) : unescape (value.flatMap escapeChar) = value := by
  induction value with
  | nil => rfl
  | cons c value ih =>
    rw [List.flatMap_cons]
    obtain ⟨hNe, hEq⟩ | ⟨d, hEq, hBack⟩ := escapeChar_cases c
    · rw [hEq, List.singleton_append, unescape_cons hNe, ih]
    · rw [hEq, List.cons_append, List.singleton_append, unescape, if_pos rfl, ih, hBack]

theorem unquote_quote (value : List Char) : unquote (quote value) = some value := by
  have hLast : (quote value).getLast? = some '"' := by
    rw [quote, ← List.cons_append, List.getLast?_append]
    rfl
  rw [unquote, if_pos ⟨hLast, by simp [quote]⟩, quote, List.tail_cons, List.dropLast_concat,
    unescape_flatMap]

theorem endsVisible_quote (value : List Char) : EndsVisible (quote value) := by
  refine ⟨'"', ?_, by decide⟩
  rw [quote, ← List.cons_append, List.getLast?_append]
  rfl

theorem notMem_quote (value : List Char) : '\n' ∉ quote value := by
  have hEscape : '\n' ∉ value.flatMap escapeChar := by
    intro hMem
    obtain ⟨c, -, hc⟩ := List.mem_flatMap.mp hMem
    obtain ⟨-, hEq⟩ | ⟨d, hEq, hBack⟩ := escapeChar_cases c
    · rw [hEq, List.mem_singleton] at hc
      rw [← hc] at hEq
      exact absurd hEq (by decide)
    · rw [hEq] at hc
      simp only [List.mem_cons, List.not_mem_nil, or_false] at hc
      obtain hc | rfl := hc
      · exact absurd hc (by decide)
      · rw [show c = '\n' from hBack.symm] at hEq
        exact absurd hEq (by decide)
  simp [quote, hEscape]

/-! ## Lines -/

inductive LineError where
  | invalid (line : String)
  | unterminated
  deriving DecidableEq

/-- A line is a key and a value. -/
def parseKeyValue (line : String) : Except LineError (String × String) :=
  match splitOnce '=' line.toList with
  | (_, none) => .error (.invalid line)
  | (key, some value) =>
      let key := trim (String.ofList key)
      let value := trim (String.ofList value)
      if value.toList.head? = some '"' then
        match unquote value.toList with
        | some text => .ok (key, String.ofList text)
        | none => .error .unterminated
      else .ok (key, value)

/-- A line that says nothing. -/
def Skipped (line : String) : Prop :=
  line = "" ∨ line.toList.head? = some '#'

instance (line : String) : Decidable (Skipped line) :=
  inferInstanceAs (Decidable (_ ∨ _))

theorem map_eq_ok {ε α β : Type} {x : Except ε α} {f : α → β} {b : β} :
    x.map f = .ok b ↔ ∃ a, x = .ok a ∧ f a = b := by
  cases x <;> simp [Except.map]

section

variable {σ ε : Type} (lineError : LineError → ε) (field : σ → String → String → Except ε σ)

def readLine (s : σ) (raw : String) : Except ε σ :=
  let line := trim raw
  if Skipped line then .ok s
  else
    match parseKeyValue line with
    | .ok (key, value) => field s key value
    | .error error => .error (lineError error)

def readKeyValues (s : σ) (text : String) : Except ε σ :=
  (lines text).foldlM (readLine lineError field) s

variable {lineError field}

/-- What each field keeps holds of all that is read. -/
theorem readKeyValues_invariant {I : σ → Prop} {s s' : σ} {text : String}
    (hField : ∀ s key value s', I s → field s key value = .ok s' → I s') (hs : I s)
    (h : readKeyValues lineError field s text = .ok s') : I s' := by
  refine foldlM_invariant (fun s raw next hs hNext => ?_) hs h
  unfold readLine at hNext
  extract_lets line at hNext
  split at hNext
  · cases hNext
    exact hs
  · split at hNext
    · exact hField _ _ _ _ hs hNext
    · cases hNext

end

/-! ## Written lines -/

/-- A name that can stand before the equals sign. -/
structure IsKey (key : List Char) : Prop extends IsVisible key where
  notMem : '=' ∉ key
  head : key.head? ≠ some '#'

instance (key : List Char) : Decidable (IsKey key) :=
  decidable_of_iff ((key ≠ [] ∧ key.all (fun c => !isWhitespace c) = true) ∧ '=' ∉ key ∧
      key.head? ≠ some '#')
    ⟨fun ⟨⟨h₁, h₂⟩, h₃, h₄⟩ => ⟨⟨h₁, by simpa using h₂⟩, h₃, h₄⟩,
      fun h => ⟨⟨h.ne_nil, by simpa using h.visible⟩, h.notMem, h.head⟩⟩

/-- A value as it stands in the file, and what it is read as. -/
structure Reads (written : List Char) (value : String) : Prop where
  first : ∃ c rest, written = c :: rest ∧ isWhitespace c = false
  ends : EndsVisible written
  oneLine : '\n' ∉ written
  value : if written.head? = some '"' then unquote written = some value.toList
    else String.ofList written = value

theorem reads_quote (value : String) : Reads (quote value.toList) value where
  first := ⟨'"', _, rfl, by decide⟩
  ends := endsVisible_quote _
  oneLine := notMem_quote _
  value := (if_pos (c := (quote value.toList).head? = some '"') rfl).mpr (unquote_quote _)

theorem reads_visible {w : List Char} (h : IsVisible w) (hQuote : w.head? ≠ some '"') :
    Reads w (String.ofList w) where
  first := h.exists_cons
  ends := h.endsVisible
  oneLine := h.notMem (by decide)
  value := by rw [if_neg hQuote]

/-- `true` or `false`. -/
def boolText (b : Bool) : List Char :=
  if b then "true".toList else "false".toList

theorem reads_number (n : Nat) : Reads (toString n).toList (toString n) := by
  have h := reads_visible (isVisible_toString n) ?_
  · rwa [String.ofList_toList] at h
  · intro hHead
    have hDigit := isDigit_of_mem_toString (List.mem_of_head? hHead)
    exact absurd hDigit (by decide)

theorem reads_bool (b : Bool) : Reads (boolText b) (String.ofList (boolText b)) := by
  have hAll : ∀ b, (boolText b).all (fun c => !isWhitespace c) = true := by decide
  refine reads_visible ⟨?_, by simpa using hAll b⟩ ?_
  · cases b <;> decide
  · cases b <;> decide

/-- The line that is written for a key and a value. -/
def keyValueLine (key written : List Char) : List Char :=
  key ++ [' ', '=', ' '] ++ written

theorem trim_of_space {key : List Char} (h : IsVisible key) :
    trim (String.ofList (key ++ [' '])) = String.ofList key := by
  obtain ⟨c, rest, rfl, hc⟩ := h.exists_cons
  obtain ⟨last, hLast, hVisible⟩ := h.endsVisible
  rw [String.ofList_append]
  refine trim_append ?_ hc ?_ hVisible ?_
  · rw [String.toList_ofList]
    rfl
  · rw [String.toList_ofList]
    exact hLast
  · intro d hd
    rw [String.toList_ofList, List.mem_singleton] at hd
    rw [hd]
    decide

section

variable {key written : List Char} {value : String}

theorem parseKeyValue_line (hKey : IsKey key) (h : Reads written value) :
    parseKeyValue (String.ofList (keyValueLine key written)) = .ok (String.ofList key, value) := by
  have hSplit : splitOnce '=' (keyValueLine key written) =
      (key ++ [' '], some (' ' :: written)) := by
    have hNot : '=' ∉ key ++ [' '] := by simp [hKey.notMem]
    rw [← splitOnce_append hNot, keyValueLine]
    simp
  have hTrim : trim (String.ofList (' ' :: written)) = String.ofList written := by
    obtain ⟨c, rest, rfl, hc⟩ := h.first
    have hEq := trim_eq_self hc h.ends
    rw [trim, String.toList_ofList] at hEq ⊢
    rw [List.dropWhile_cons_of_pos (by decide)]
    exact hEq
  rw [parseKeyValue, String.toList_ofList, hSplit]
  simp only [hTrim, trim_of_space hKey.toIsVisible, String.toList_ofList]
  have hValue := h.value
  split at hValue
  · next hQuoted =>
    rw [if_pos hQuoted, hValue]
    simp
  · next hQuoted => rw [if_neg hQuoted, hValue]

theorem endsVisible_keyValueLine (h : Reads written value) :
    EndsVisible (keyValueLine key written) :=
  h.ends.append _

theorem notMem_keyValueLine (hKey : IsKey key) (h : Reads written value) :
    '\n' ∉ keyValueLine key written := by
  have hNot := hKey.toIsVisible.notMem (c := '\n') (by decide)
  simp [keyValueLine, hNot, h.oneLine]

/-- A written line is not changed by trimming, and is not skipped. -/
theorem trim_keyValueLine (hKey : IsKey key) (h : Reads written value) :
    trim (String.ofList (keyValueLine key written)) = String.ofList (keyValueLine key written)
      ∧ ¬ Skipped (String.ofList (keyValueLine key written)) := by
  obtain ⟨c, rest, rfl, hc⟩ := hKey.toIsVisible.exists_cons
  have hEnds : EndsVisible (keyValueLine (c :: rest) written) := endsVisible_keyValueLine h
  refine ⟨trim_eq_self hc hEnds, ?_⟩
  rintro (hEmpty | hHash)
  · rw [← String.toList_inj, String.toList_ofList] at hEmpty
    cases hEmpty
  · rw [String.toList_ofList] at hHash
    exact hKey.head hHash

theorem readLine_line {σ ε : Type} (lineError : LineError → ε)
    (field : σ → String → String → Except ε σ) (s : σ) (hKey : IsKey key)
    (h : Reads written value) :
    readLine lineError field s (String.ofList (keyValueLine key written))
      = field s (String.ofList key) value := by
  obtain ⟨hTrim, hNot⟩ := trim_keyValueLine hKey h
  rw [readLine]
  simp only [hTrim]
  rw [if_neg hNot, parseKeyValue_line hKey h]

end

/-- Lines that are each ended by a line break. -/
def unlines (ls : List (List Char)) : String :=
  String.ofList (ls.flatMap (· ++ ['\n']))

theorem splitOn_unlines {ls : List (List Char)} (h : ∀ l ∈ ls, '\n' ∉ l) :
    (ls.flatMap (· ++ ['\n'])).splitOn '\n' = ls ++ [[]] := by
  induction ls with
  | nil => rfl
  | cons l ls ih =>
    rw [List.forall_mem_cons] at h
    rw [List.flatMap_cons, List.append_assoc, List.singleton_append,
      List.splitOn_append_cons_self, List.splitOn_eq_singleton h.1, ih h.2]
    rfl

theorem lines_unlines {ls : List (List Char)} (h : ∀ l ∈ ls, '\n' ∉ l ∧ stripCr l = l) :
    lines (unlines ls) = ls.map String.ofList := by
  rw [lines, unlines, String.toList_ofList, splitOn_unlines fun l hl => (h l hl).1]
  have hStrip : ls.map stripCr = ls := (List.map_congr_left fun l hl => (h l hl).2).trans ls.map_id
  simp [hStrip]

/-- A key, its value as it is written, and what that is read as. -/
structure Entry where
  key : String
  written : List Char
  value : String

def Entry.line (entry : Entry) : List Char :=
  keyValueLine entry.key.toList entry.written

structure Entry.Ok (entry : Entry) : Prop where
  key : IsKey entry.key.toList
  reads : Reads entry.written entry.value

theorem Entry.Ok.line {entry : Entry} (h : entry.Ok) :
    '\n' ∉ entry.line ∧ stripCr entry.line = entry.line :=
  ⟨notMem_keyValueLine h.key h.reads, (endsVisible_keyValueLine h.reads).stripCr_eq⟩

/-- A written file under a line that is skipped is read entry by entry. -/
theorem readKeyValues_unlines {σ ε : Type} (lineError : LineError → ε)
    (field : σ → String → String → Except ε σ) (s : σ) {header : List Char}
    {entries : List Entry} (hLine : '\n' ∉ header) (hEnds : EndsVisible header)
    (hSkipped : Skipped (trim (String.ofList header))) (h : ∀ entry ∈ entries, entry.Ok) :
    readKeyValues lineError field s (unlines (header :: entries.map Entry.line))
      = entries.foldlM (fun s entry => field s entry.key entry.value) s := by
  have hLines : ∀ l ∈ header :: entries.map Entry.line, '\n' ∉ l ∧ stripCr l = l :=
    List.forall_mem_cons.mpr ⟨⟨hLine, hEnds.stripCr_eq⟩,
      List.forall_mem_map.mpr fun entry hMem => (h entry hMem).line⟩
  have hHeader : readLine lineError field s (String.ofList header) = .ok s := by
    rw [readLine]
    exact if_pos hSkipped
  rw [readKeyValues, lines_unlines hLines, List.map_cons, List.foldlM_cons, hHeader]
  show ((entries.map Entry.line).map String.ofList).foldlM (readLine lineError field) s = _
  clear hLines hHeader
  induction entries generalizing s with
  | nil => rfl
  | cons entry entries ih =>
    rw [List.forall_mem_cons] at h
    rw [List.map_cons, List.map_cons, List.foldlM_cons, List.foldlM_cons, Entry.line,
      readLine_line lineError field s h.1.key h.1.reads, String.ofList_toList]
    exact bind_congr fun s => ih s h.2

end WaitAgent.Verified
