import WaitAgent.Verified.Utf8
import WaitAgent.Verified.Words

/-!
# The diagnostics log

Every process appends to one log, and the viewer reads it back line by line.  The reader
cuts a line at fixed byte offsets after a test of its length that asks for fourteen bytes
where sixteen are cut off, and never asks whether a character ends at an offset.
-/

namespace WaitAgent.Node

open Verified

inductive LogLevel where
  | debug
  | info
  | warn
  | error
deriving DecidableEq

/-- `LogLevel::as_str`. -/
def LogLevel.asStr : LogLevel → String
  | debug => "DEBUG"
  | info => "INFO"
  | warn => "WARN"
  | error => "ERROR"

/-- `LogLevel::from_str`. -/
def LogLevel.fromStr (s : String) : Option LogLevel :=
  if s = "DEBUG" ∨ s = "DBG" then some debug
  else if s = "INFO" ∨ s = "INF" then some info
  else if s = "WARN" ∨ s = "WRN" then some warn
  else if s = "ERROR" ∨ s = "ERR" then some error
  else none

/-! ## Writing -/

/-- The milliseconds, with three digits. -/
def millisText (ts : Nat) : List Char :=
  (Nat.toDigits 10 (ts % 1000)).leftpad 3 '0'

/-- The time in front of a line. -/
def stamp (ts : Nat) : List Char :=
  '[' :: (Nat.toDigits 10 (ts / 1000) ++ '.' :: (millisText ts ++ [']']))

/-- A line of the log without its end. -/
def entryLine (level : LogLevel) (ts : Nat) (text : List Char) : List Char :=
  stamp ts ++ ' ' :: '[' :: (level.asStr.toList ++ ']' :: ' ' :: text)

structure LastEntry where
  message : List Char
  count : Nat

/-- `suppressible_lines`: the state after a message, and the lines that are appended. -/
def suppressibleLines (last : LastEntry) (level : LogLevel) (ts : Nat) (message : List Char) :
    LastEntry × Option (List (List Char)) :=
  let formatLine text := entryLine level ts text ++ ['\n']
  if last.message = message then ({ last with count := last.count + 1 }, none)
  else
    let summary := if last.count > 0 then
        [formatLine ("... previous message repeated ".toList ++ Nat.toDigits 10 last.count
          ++ " times: ".toList ++ last.message)]
      else []
    (⟨message, 0⟩, some (summary ++ [formatLine message]))

/-! ## Reading

`none` stands for a panic. -/

/-- A text cut at a byte, where a character ends. -/
def cutAt : Nat → List Char → Option (List Char × List Char)
  | 0, l => some ([], l)
  | _ + 1, [] => none
  | n + 1, c :: l =>
    if c.utf8Size ≤ n + 1 then (cutAt (n + 1 - c.utf8Size) l).map fun p => (c :: p.1, p.2)
    else none

/-- `&line[a..b]`. -/
def slice (line : List Char) (a b : Nat) : Option (List Char) :=
  (cutAt a line).bind fun p => (cutAt (b - a) p.2).map Prod.fst

/-- The rest of an entry, with its level or in the legacy format without one. -/
def parseMessage (ts : Nat) (afterTs : List Char) : Option (Nat × LogLevel × List Char) :=
  match afterTs with
  | '[' :: tail =>
    (splitOnce ']' tail).2.map fun rest =>
      (ts, (LogLevel.fromStr (String.ofList (splitOnce ']' tail).1)).getD .info,
        rest.dropWhile isWhitespace)
  | afterTs => some (ts, .info, afterTs)

/-- `parse_entry`.  Ten and three bytes hold no number that leaves the 64 bits. -/
def parseEntry (line : List Char) : Option (Option (Nat × LogLevel × List Char)) :=
  if (utf8Bytes line).length < 14 ∨ line.head? ≠ some '[' then some none
  else
    (slice line 1 11).bind fun secs =>
      match parseU64 (String.ofList secs) with
      | none => some none
      | some secs =>
        (slice line 12 15).bind fun millis =>
          match parseU64 (String.ofList millis) with
          | none => some none
          | some millis =>
            (cutAt 16 line).map fun p =>
              parseMessage (secs * 1000 + millis) (p.2.dropWhile isWhitespace)

def parseLines (text : List Char) : Option (List (Nat × LogLevel × List Char)) :=
  ((lines (String.ofList text)).mapM fun line => parseEntry line.toList).map (·.filterMap id)

/-- `TAIL_BYTES`. -/
def tailBytes : Nat := 256 * 1024

/-- `str::from_utf8` or nothing. -/
def textOrEmpty (bytes : List UInt8) : List Char :=
  (fromUtf8 bytes).toOption.getD []

/-- The end of the file without its first line, which has lost its beginning. -/
def tailText (file : List UInt8) : List Char :=
  let start := file.length - tailBytes
  let buf := file.drop start
  if start > 0 then ((buf.dropWhile (· ≠ 10)).tail?.map textOrEmpty).getD []
  else textOrEmpty buf

/-- `ErrorLog::entries` of a file that can be opened. -/
def entries (file : List UInt8) : Option (List (Nat × LogLevel × List Char)) :=
  parseLines (textOrEmpty file)

/-- `ErrorLog::recent_entries` of a file that can be opened. -/
def recentEntries (file : List UInt8) (maxLines : Nat) :
    Option (List (Nat × LogLevel × List Char)) :=
  (parseLines (tailText file)).map fun entries => entries.drop (entries.length - maxLines)

/-! ## Lines that can be read -/

/-- No cut falls into a character or behind the end, unless a test before it turns the line
down: the bytes 1 to 10 are no number, or those from 12 to 14 are none. -/
def Readable (line : List Char) : Prop :=
  (utf8Bytes line).length < 14 ∨ line.head? ≠ some '['
    ∨ ∃ secs rest, line = '[' :: (secs ++ rest) ∧ (utf8Bytes secs).length = 10
      ∧ (parseU64 (String.ofList secs) = none
        ∨ ∃ dot millis rest', rest = dot :: (millis ++ rest') ∧ dot.utf8Size = 1
          ∧ (utf8Bytes millis).length = 3
          ∧ (parseU64 (String.ofList millis) = none
            ∨ ∃ bracket text, rest' = bracket :: text ∧ bracket.utf8Size = 1))

theorem cutAt_append {head : List Char} {n : Nat} (hn : (utf8Bytes head).length = n) (k : Nat)
    (tail : List Char) :
    cutAt (n + k) (head ++ tail) = (cutAt k tail).map fun p => (head ++ p.1, p.2) := by
  induction head generalizing n with
  | nil =>
    obtain rfl : 0 = n := hn
    simp
  | cons c head ih =>
    rw [length_utf8Bytes_cons] at hn
    have hPos := c.utf8Size_pos
    obtain ⟨m, hm⟩ : ∃ m, n + k = m + 1 := ⟨n + k - 1, by omega⟩
    have hRest : m + 1 - c.utf8Size = (utf8Bytes head).length + k := by omega
    rw [hm, List.cons_append, cutAt, if_pos (by omega), hRest, ih rfl, Option.map_map]
    rfl

theorem cutAt_length {head : List Char} {n : Nat} (hn : (utf8Bytes head).length = n)
    (tail : List Char) : cutAt n (head ++ tail) = some (head, tail) := by
  simpa [cutAt] using cutAt_append hn 0 tail

theorem of_cutAt {n : Nat} {line : List Char} {p : List Char × List Char}
    (h : cutAt n line = some p) : line = p.1 ++ p.2 ∧ (utf8Bytes p.1).length = n := by
  induction line generalizing n p with
  | nil =>
    cases n with
    | zero =>
      obtain rfl := Option.some.inj h
      exact ⟨rfl, rfl⟩
    | succ n => cases h
  | cons c line ih =>
    cases n with
    | zero =>
      obtain rfl := Option.some.inj h
      exact ⟨rfl, rfl⟩
    | succ n =>
      rw [cutAt] at h
      split at h
      · next hFits =>
        obtain ⟨q, hq, rfl⟩ := Option.map_eq_some_iff.mp h
        obtain ⟨rfl, hLength⟩ := ih hq
        refine ⟨rfl, ?_⟩
        rw [length_utf8Bytes_cons, hLength]
        omega
      · cases h

theorem cutAt_one {c : Char} (hOne : c.utf8Size = 1) (rest : List Char) :
    cutAt 1 (c :: rest) = some ([c], rest) := by
  have hLength : (utf8Bytes [c]).length = 1 := by
    rw [length_utf8Bytes_cons, hOne]
    rfl
  exact cutAt_length hLength rest

theorem cutAt_open (rest : List Char) : cutAt 1 ('[' :: rest) = some (['['], rest) :=
  cutAt_one rfl rest

theorem of_cutAt_one {line : List Char} {p : List Char × List Char}
    (h : cutAt 1 line = some p) : ∃ c, line = c :: p.2 ∧ c.utf8Size = 1 := by
  obtain ⟨hLine, hLength⟩ := of_cutAt h
  cases hFront : p.1 with
  | nil =>
    rw [hFront] at hLength
    cases hLength
  | cons c front =>
    rw [hFront, length_utf8Bytes_cons] at hLength
    have hPos := c.utf8Size_pos
    have hShort := length_le_utf8Bytes front
    obtain rfl : front = [] := List.eq_nil_of_length_eq_zero (by omega)
    exact ⟨c, by rw [hLine, hFront]; rfl, by omega⟩

section

variable {secs rest : List Char} (hSecs : (utf8Bytes secs).length = 10)
include hSecs

theorem cutAt_behind_seconds (k : Nat) : cutAt (11 + k) ('[' :: (secs ++ rest)) =
    (cutAt k rest).map fun p => ('[' :: (secs ++ p.1), p.2) := by
  have hHead : (utf8Bytes ('[' :: secs)).length = 11 := by
    rw [length_utf8Bytes_cons, hSecs]
    rfl
  exact cutAt_append hHead k rest

theorem slice_seconds : slice ('[' :: (secs ++ rest)) 1 11 = some secs := by
  rw [slice, cutAt_open, Option.bind_some, cutAt_length hSecs]
  rfl

theorem slice_millis : slice ('[' :: (secs ++ rest)) 12 15 =
    (cutAt 1 rest).bind fun p => (cutAt 3 p.2).map Prod.fst := by
  rw [slice, cutAt_behind_seconds hSecs 1]
  cases cutAt 1 rest <;> rfl

end

theorem cutAt_behind_millis {dot : Char} {millis : List Char} (hDot : dot.utf8Size = 1)
    (hMillis : (utf8Bytes millis).length = 3) (rest : List Char) :
    (cutAt 5 (dot :: (millis ++ rest))).isSome = (cutAt 1 rest).isSome := by
  have hHead : (utf8Bytes (dot :: millis)).length = 4 := by
    rw [length_utf8Bytes_cons, hDot, hMillis]
  rw [← List.cons_append, cutAt_append hHead 1 rest, Option.isSome_map]

theorem cutAt_head {head : List Char} (hAscii : IsAscii head) (tail : List Char) {n : Nat}
    (hn : n ≤ head.length) : cutAt n (head ++ tail) = some (head.take n, head.drop n ++ tail) := by
  induction head generalizing n with
  | nil =>
    obtain rfl : n = 0 := by simpa using hn
    rw [cutAt]
    rfl
  | cons c head ih =>
    cases n with
    | zero => rw [cutAt]; rfl
    | succ n =>
      have hSize : c.utf8Size = 1 := (toNat_lt_iff c).mp (hAscii c (by simp))
      have hRest := ih (fun c hc => hAscii c (by simp [hc])) (Nat.le_of_succ_le_succ hn)
      rw [List.cons_append, cutAt, hSize, if_pos (by omega), Nat.add_sub_cancel, hRest]
      rfl

theorem slice_head {head : List Char} (hAscii : IsAscii head) (tail : List Char) {a b : Nat}
    (hab : a ≤ b) (hb : b ≤ head.length) :
    slice (head ++ tail) a b = some ((head.drop a).take (b - a)) := by
  have hDrop : IsAscii (head.drop a) := fun c hc => hAscii c (List.mem_of_mem_drop hc)
  rw [slice, cutAt_head hAscii tail (by omega), Option.bind_some,
    cutAt_head hDrop tail (by simp; omega), Option.map_some]

theorem isSome_bind_iff {α β : Type} {o : Option α} {f : α → Option β} :
    (o.bind f).isSome ↔ ∃ a, o = some a ∧ (f a).isSome := by
  cases o <;> simp

/-- The cuts fail exactly on the lines that are not readable. -/
theorem parseEntry_isSome_iff (line : List Char) : (parseEntry line).isSome ↔ Readable line := by
  unfold parseEntry Readable
  split
  · next hTest => simpa [or_assoc] using Or.inl hTest
  · next hTest =>
    rw [not_or, not_not] at hTest
    obtain ⟨rest, rfl⟩ := List.head?_eq_some_iff.mp hTest.2
    simp only [hTest.1, List.head?_cons, ne_eq, not_true_eq_false, false_or, List.cons.injEq,
      true_and, isSome_bind_iff]
    constructor
    · rintro ⟨secs, hSlice, hParsed⟩
      rw [slice, cutAt_open, Option.bind_some] at hSlice
      obtain ⟨⟨_, rest⟩, hCut, rfl⟩ := Option.map_eq_some_iff.mp hSlice
      obtain ⟨rfl, hSecs⟩ := of_cutAt hCut
      refine ⟨_, rest, rfl, hSecs, ?_⟩
      split at hParsed
      · next hNumber => exact .inl hNumber
      · rw [slice_millis hSecs, isSome_bind_iff] at hParsed
        obtain ⟨millis, hMillis, hParsed⟩ := hParsed
        obtain ⟨q, hOne, hCut⟩ := Option.bind_eq_some_iff.mp hMillis
        obtain ⟨⟨_, rest'⟩, hThree, rfl⟩ := Option.map_eq_some_iff.mp hCut
        obtain ⟨dot, rfl, hDot⟩ := of_cutAt_one hOne
        obtain ⟨hRest, hMillis⟩ := of_cutAt hThree
        refine .inr ⟨dot, _, rest', by rw [hRest], hDot, hMillis, ?_⟩
        split at hParsed
        · next hNumber => exact .inl hNumber
        · rw [hRest, Option.isSome_map, cutAt_behind_seconds hSecs 5, Option.isSome_map,
            cutAt_behind_millis hDot hMillis] at hParsed
          obtain ⟨_, hLast⟩ := Option.isSome_iff_exists.mp hParsed
          obtain ⟨bracket, hText, hBracket⟩ := of_cutAt_one hLast
          exact .inr ⟨bracket, _, hText, hBracket⟩
    · rintro ⟨secs, rest, rfl, hSecs, hRest⟩
      refine ⟨secs, slice_seconds hSecs, ?_⟩
      obtain hNumber | ⟨dot, millis, rest, rfl, hDot, hMillis, hRest⟩ := hRest
      · simp [hNumber]
      split
      · rfl
      rw [slice_millis hSecs, cutAt_one hDot, Option.bind_some, cutAt_length hMillis,
        Option.map_some, Option.bind_some]
      obtain hNumber | ⟨bracket, text, rfl, hBracket⟩ := hRest
      · simp [hNumber]
      split
      · rfl
      rw [Option.isSome_map, cutAt_behind_seconds hSecs 5, Option.isSome_map,
        cutAt_behind_millis hDot hMillis, cutAt_one hBracket]
      rfl

theorem mapM_isSome_iff {α β : Type} {f : α → Option β} {l : List α} :
    (l.mapM f).isSome ↔ ∀ a ∈ l, (f a).isSome := by
  induction l with
  | nil => simp
  | cons a l ih =>
    rw [List.forall_mem_cons, ← ih, List.mapM_cons]
    cases f a with
    | none => simp
    | some b => cases l.mapM f <;> simp

theorem parseLines_isSome_iff (text : List Char) :
    (parseLines text).isSome ↔ ∀ line ∈ lines (String.ofList text), Readable line.toList := by
  rw [parseLines, Option.isSome_map, mapM_isSome_iff]
  exact forall₂_congr fun line _ => parseEntry_isSome_iff line.toList

/-! ## Lines that were written -/

theorem isAscii_toDigits (n : Nat) : IsAscii (Nat.toDigits 10 n) := by
  intro c hc
  have hDigit := Nat.isDigit_of_mem_toDigits (by decide) (by decide) hc
  exact Nat.lt_of_le_of_lt (Char.isDigit_iff_toNat.mp hDigit).2 (by decide)

theorem isAscii_stamp (ts : Nat) : IsAscii (stamp ts) := by
  intro c hc
  simp only [stamp, millisText, List.leftpad, List.mem_cons, List.mem_append, List.not_mem_nil,
    or_false] at hc
  obtain rfl | hc | rfl | (hc | hc) | rfl := hc
  · decide
  · exact isAscii_toDigits _ c hc
  · decide
  · rw [List.eq_of_mem_replicate hc]
    decide
  · exact isAscii_toDigits _ c hc
  · decide

theorem length_millisText (ts : Nat) : (millisText ts).length = 3 := by
  have hAtMost := (Nat.length_toDigits_le_iff (b := 10) (n := ts % 1000) (k := 3) (by decide)
    (by decide)).mpr (Nat.mod_lt ts (by decide))
  rw [millisText, List.length_leftpad]
  omega

theorem parseU64_millisText (ts : Nat) :
    parseU64 (String.ofList (millisText ts)) = some (ts % 1000) :=
  parseU64_padded (Nat.lt_trans (Nat.mod_lt ts (by decide : 0 < 1000)) (by decide)) _

section

variable {ts : Nat} (hLow : 10 ^ 9 ≤ ts / 1000) (hHigh : ts / 1000 < 10 ^ 10)

include hLow hHigh

theorem length_seconds : (Nat.toDigits 10 (ts / 1000)).length = 10 := by
  have hAtMost := (Nat.length_toDigits_le_iff (b := 10) (by decide) (by decide)).mpr hHigh
  have hAtLeast := mt (Nat.length_toDigits_le_iff (b := 10) (by decide) (by decide)).mp
    (Nat.not_lt.mpr hLow)
  omega

theorem length_stamp : (stamp ts).length = 16 := by
  simp [stamp, length_seconds hLow hHigh, length_millisText]

theorem stamp_seconds : ((stamp ts).drop 1).take (11 - 1) = Nat.toDigits 10 (ts / 1000) := by
  rw [stamp, List.drop_succ_cons, List.drop_zero,
    List.take_left' (length_seconds hLow hHigh)]

theorem stamp_millis : ((stamp ts).drop 12).take (15 - 12) = millisText ts := by
  rw [stamp, List.drop_succ_cons, List.append_cons, List.drop_left'
    (by simp [length_seconds hLow hHigh]), List.take_left' (length_millisText ts)]

end

theorem fromStr_asStr (level : LogLevel) :
    LogLevel.fromStr (String.ofList level.asStr.toList) = some level := by
  cases level <;> rfl

theorem notMem_asStr (level : LogLevel) : ']' ∉ level.asStr.toList := by
  cases level <;> decide

theorem parseMessage_written (ts : Nat) (level : LogLevel) (text : List Char) :
    parseMessage ts ('[' :: (level.asStr.toList ++ ']' :: ' ' :: text))
      = some (ts, level, text.dropWhile isWhitespace) := by
  rw [parseMessage, splitOnce_append (notMem_asStr level), Option.map_some, fromStr_asStr]
  rfl

/-- A line whose seconds have ten digits gives its time, its level and its message back. -/
theorem parseEntry_entryLine (level : LogLevel) {ts : Nat} (hLow : 10 ^ 9 ≤ ts / 1000)
    (hHigh : ts / 1000 < 10 ^ 10) (text : List Char) :
    parseEntry (entryLine level ts text)
      = some (some (ts, level, text.dropWhile isWhitespace)) := by
  have hAscii := isAscii_stamp ts
  have hSixteen := length_stamp hLow hHigh
  have hTests : ¬((utf8Bytes (entryLine level ts text)).length < 14
      ∨ (entryLine level ts text).head? ≠ some '[') := by
    have hLong := length_le_utf8Bytes (entryLine level ts text)
    have hLength : 16 ≤ (entryLine level ts text).length := by simp [entryLine, hSixteen]
    rintro (hShort | hOther)
    · omega
    · exact hOther rfl
  have hSecs : parseU64 (String.ofList (Nat.toDigits 10 (ts / 1000))) = some (ts / 1000) :=
    parseU64_padded (by omega) 0
  rw [parseEntry, if_neg hTests, entryLine, slice_head hAscii _ (by decide) (by omega),
    slice_head hAscii _ (by decide) (by omega), cutAt_head hAscii _ (by omega),
    stamp_seconds hLow hHigh, stamp_millis hLow hHigh]
  simp only [Option.bind_some, hSecs, parseU64_millisText, Option.map_some]
  rw [List.drop_eq_nil_of_le (Nat.le_of_eq hSixteen), List.nil_append,
    List.dropWhile_cons_of_pos (by decide), List.dropWhile_cons_of_neg (by decide),
    parseMessage_written, Nat.div_add_mod' ts 1000]

end WaitAgent.Node
