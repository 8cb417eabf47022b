import WaitAgent.Terminal.Types
import WaitAgent.Verified.Lines
import WaitAgent.Verified.Utf8

/-!
# Reading and writing terminal text

The functions of `terminal/ansi.rs`: decoding of the plain bytes, the width of a
character, the text of a row, the parameters of escape sequences, blank cells,
and the reader with which a client turns a line with styles back into spans.
The decoder is written as the source has it, a loop around `str::from_utf8`, and
shown to be the stream decoder.
-/

namespace WaitAgent.Terminal

open Verified

/-! ## Characters -/

/-- The loop of `decode_utf8_chars`; each turn consumes at least one byte. -/
def decodeUtf8Loop : (fuel : Nat) → List UInt8 → Decoded
  | 0, _ => ([], [])
  | _ + 1, [] => ([], [])
  | fuel + 1, byte :: rest =>
      let bytes := byte :: rest
      match fromUtf8 bytes with
      | .ok chars => (chars, [])
      | .error e =>
          if e.validUpTo > 0 then
            let valid :=
              match fromUtf8 (bytes.take e.validUpTo) with
              | .ok chars => chars
              | .error _ => []
            Decoded.prepend valid (decodeUtf8Loop fuel (bytes.drop e.validUpTo))
          else
            match e.errorLen with
            | some invalidLen =>
                Decoded.prepend [replacementCharacter]
                  (decodeUtf8Loop fuel (bytes.drop invalidLen))
            | none => ([], bytes)

/-- `decode_utf8_chars`: the characters, and the bytes put into `pending_utf8`. -/
def decodeUtf8Chars (bytes : List UInt8) : Decoded :=
  decodeUtf8Loop (bytes.length + 1) bytes

theorem decodeUtf8Loop_eq :
    ∀ (fuel : Nat) (bytes : List UInt8), bytes.length < fuel →
      decodeUtf8Loop fuel bytes = decodeStream bytes := by
  intro fuel
  induction fuel with
  | zero => exact fun bytes h => absurd h (Nat.not_lt_zero _)
  | succ fuel ih =>
    intro bytes hFuel
    cases bytes with
    | nil => rw [decodeUtf8Loop, decodeStream_nil]
    | cons byte bytes =>
      obtain ⟨hOk, hError⟩ := fromUtf8_spec _ (byte :: bytes) (Nat.le_refl _)
      rw [decodeUtf8Loop]
      cases hValid : fromUtf8 (byte :: bytes) with
      | ok chars => exact (hOk chars hValid).symm
      | error e =>
        obtain ⟨⟨chars, hChars, hDecode⟩, first, rest, hDrop, hScan⟩ := hError e hValid
        have hLength := congrArg List.length hDrop
        rw [List.length_cons] at hFuel
        rw [List.length_drop, List.length_cons, List.length_cons] at hLength
        dsimp only
        split
        · rw [hChars, ih _ (by rw [List.length_drop, List.length_cons]; omega),
            hDecode]
        · rename_i hAtOnce
          rw [Nat.eq_zero_of_not_pos hAtOnce, List.drop_zero] at hDrop
          obtain ⟨rfl, rfl⟩ := List.cons.inj hDrop
          rw [decodeStream_cons, hScan]
          cases hLen : e.errorLen with
          | none => rfl
          | some n =>
            rw [hLen] at hScan
            have hn := scanChar_length.2 n hScan
            have hNext : (byte :: bytes).drop n = bytes.drop (n - 1) := by
              rw [← Nat.succ_pred_eq_of_pos hn.1]
              rfl
            dsimp only
            rw [ih _ (by rw [List.length_drop, List.length_cons]; omega), hNext]
            rfl

/-- The source's decoder reads a stream. -/
theorem decodeUtf8Chars_eq (bytes : List UInt8) :
    decodeUtf8Chars bytes = decodeStream bytes :=
  decodeUtf8Loop_eq _ bytes (Nat.lt_succ_self _)

/-- `String::from_utf8_lossy`: an unfinished character at the end is replaced as
well. -/
def fromUtf8Lossy (bytes : List UInt8) : String :=
  let decoded := decodeStream bytes
  String.ofList (decoded.1 ++ if decoded.2.isEmpty then [] else [replacementCharacter])

/-- `char::is_control`. -/
def isControl (ch : Char) : Bool :=
  ch.toNat < 0x20 || (0x7F ≤ ch.toNat && ch.toNat < 0xA0)

/-- The ranges of characters that take two columns. -/
def wideRanges : List (Nat × Nat) :=
  [(0x1100, 0x115F), (0x2329, 0x232A), (0x2E80, 0xA4CF), (0xAC00, 0xD7A3), (0xF900, 0xFAFF),
   (0xFE10, 0xFE19), (0xFE30, 0xFE6F), (0xFF00, 0xFF60), (0xFFE0, 0xFFE6), (0x1F300, 0x1FAFF)]

def charDisplayWidth (ch : Char) : Nat :=
  if isControl ch then
    0
  else if wideRanges.any fun range => range.1 ≤ ch.toNat && ch.toNat ≤ range.2 then
    2
  else
    1

/-! ## Rows as text -/

/-- One cell of `render_styled_row`: the style is selected where it changes. -/
def renderStyledCell (rendered : String × TextStyle) (cell : ScreenCell) : String × TextStyle :=
  if cell.style ≠ rendered.2 then
    (rendered.1 ++ cell.style.toAnsi ++ String.singleton cell.ch, cell.style)
  else
    (rendered.1 ++ String.singleton cell.ch, rendered.2)

def renderStyledRow (row : List ScreenCell) : String :=
  let (rendered, activeStyle) :=
    (row.filter fun cell => cell.ch ≠ WIDE_CONTINUATION).foldl renderStyledCell ("", .default)
  if activeStyle ≠ .default then rendered ++ "\x1b[0m" else rendered

/-! ## Parameters -/

def parseCsiNumbers (params : String) : List Nat :=
  if params = "" then
    []
  else
    (splitChar ';' params).map fun value => (parseU16 value).getD 0

structure SgrSegment where
  code : Nat
  subparams : List Nat
  deriving DecidableEq, Repr

def parseSgrSegment (segment : String) : SgrSegment :=
  match splitChar ':' segment with
  | [] => { code := 0, subparams := [] }
  | code :: subparams =>
      { code := (parseU16 code).getD 0
        subparams := subparams.map fun value => (parseU16 value).getD 0 }

def parseSgrSegments (params : String) : List SgrSegment :=
  if params = "" then [] else (splitChar ';' params).map parseSgrSegment

def firstOr (values : List Nat) (default : Nat) : Nat :=
  values.head?.getD default

def secondOr (values : List Nat) (default : Nat) : Nat :=
  values[1]?.getD default

/-- The DEC special graphics; other characters pass through. -/
def translateDecGraphics (ch : Char) : Char :=
  match ch with
  | '\x60' => '◆'
  | 'a' => '▒'
  | 'b' | 'c' | 'd' | 'e' | 'h' | 'i' => ' '
  | 'f' => '°'
  | 'g' => '±'
  | 'j' => '┘'
  | 'k' => '┐'
  | 'l' => '┌'
  | 'm' => '└'
  | 'n' => '┼'
  | 'o' => '⎺'
  | 'p' => '⎻'
  | 'q' => '─'
  | 'r' => '⎼'
  | 's' => '⎽'
  | 't' => '├'
  | 'u' => '┤'
  | 'v' => '┴'
  | 'w' => '┬'
  | 'x' => '│'
  | 'y' => '≤'
  | 'z' => '≥'
  | '\x7b' => 'π'
  | '|' => '≠'
  | '\x7d' => '£'
  | '~' => '·'
  | '_' => '\u00a0'
  | _ => ch

/-! ## Blank cells -/

def blankCellWithStyle (style : TextStyle) : ScreenCell :=
  { ch := ' ', style }

def blankCell : ScreenCell :=
  blankCellWithStyle .default

def blankRowWithStyle (cols : Nat) (style : TextStyle) : List ScreenCell :=
  List.replicate cols (blankCellWithStyle style)

def blankCellsWithStyle (size : TerminalSize) (style : TextStyle) : List (List ScreenCell) :=
  List.replicate size.rows (blankRowWithStyle size.cols style)

def blankCells (size : TerminalSize) : List (List ScreenCell) :=
  blankCellsWithStyle size .default

/-! ## Lines with styles -/

/-- The colon-separated form of a colour in `parse_sgr_color`: `38:5:n`, or
`38:2:…:r:g:b` with the last three operands. -/
def colonSgrColor (subparams : List Nat) : Option ColorValue :=
  match subparams with
  | 5 :: index :: _ => some (.indexed (UInt8.ofNat index))
  | 2 :: _ =>
      if subparams.length ≥ 4 then
        match subparams.reverse with
        | blue :: green :: red :: _ =>
            some (.rgb (UInt8.ofNat red) (UInt8.ofNat green) (UInt8.ofNat blue))
        | _ => none
      else
        none
  | _ => none

/-- `parse_sgr_color`: the colour, and how many of the following segments it
took.  Subparameters that are no colour do not stop the other form. -/
def parseSgrColor (segment : SgrSegment) (rest : List SgrSegment) : Option (ColorValue × Nat) :=
  match colonSgrColor segment.subparams with
  | some color => some (color, 0)
  | none =>
      match rest.map (·.code) with
      | 5 :: index :: _ => some (.indexed (UInt8.ofNat index), 2)
      | 2 :: red :: green :: blue :: _ =>
          some (.rgb (UInt8.ofNat red) (UInt8.ofNat green) (UInt8.ofNat blue), 4)
      | _ => none

/-- One turn of `apply_sgr_segments`: the style, and how many of the following
segments were operands. -/
def applySgrSegment (style : TextStyle) (segment : SgrSegment) (rest : List SgrSegment) :
    TextStyle × Nat :=
  let code := segment.code
  if code = 0 then (.default, 0)
  else if code = 1 then ({ style with bold := true }, 0)
  else if code = 2 then ({ style with dim := true }, 0)
  else if code = 3 then ({ style with italic := true }, 0)
  else if code = 4 then ({ style with underline := true }, 0)
  else if code = 5 then ({ style with blink := true }, 0)
  else if code = 7 then ({ style with inverse := true }, 0)
  else if code = 9 then ({ style with strikethrough := true }, 0)
  else if code = 22 then ({ style with bold := false, dim := false }, 0)
  else if code = 23 then ({ style with italic := false }, 0)
  else if code = 24 then ({ style with underline := false }, 0)
  else if code = 25 then ({ style with blink := false }, 0)
  else if code = 27 then ({ style with inverse := false }, 0)
  else if code = 29 then ({ style with strikethrough := false }, 0)
  else if 30 ≤ code ∧ code ≤ 37 then
    ({ style with foreground := some (.indexed (UInt8.ofNat (code - 30))) }, 0)
  else if code = 38 then
    match parseSgrColor segment rest with
    | some (color, taken) => ({ style with foreground := some color }, taken)
    | none => (style, 0)
  else if code = 39 then ({ style with foreground := none }, 0)
  else if 40 ≤ code ∧ code ≤ 47 then
    ({ style with background := some (.indexed (UInt8.ofNat (code - 40))) }, 0)
  else if code = 48 then
    match parseSgrColor segment rest with
    | some (color, taken) => ({ style with background := some color }, taken)
    | none => (style, 0)
  else if code = 49 then ({ style with background := none }, 0)
  else if 90 ≤ code ∧ code ≤ 97 then
    ({ style with foreground := some (.indexed (UInt8.ofNat (code - 82))) }, 0)
  else if 100 ≤ code ∧ code ≤ 107 then
    ({ style with background := some (.indexed (UInt8.ofNat (code - 92))) }, 0)
  else (style, 0)

/-- A loop over segments, given what one of them does and how many after it are
its operands. -/
def foldSegments (turn : TextStyle → SgrSegment → List SgrSegment → TextStyle × Nat) :
    (taken : Nat) → TextStyle → List SgrSegment → TextStyle
  | _, style, [] => style
  | taken + 1, style, _ :: rest => foldSegments turn taken style rest
  | 0, style, segment :: rest =>
      let (style, taken) := turn style segment rest
      foldSegments turn taken style rest

def applySgrSegments (style : TextStyle) (segments : List SgrSegment) : TextStyle :=
  foldSegments applySgrSegment 0 style segments

/-- What `parse_ansi_styled_line` has read: the finished spans, the text of the
next one, and its style. -/
structure StyledSpans where
  spans : List (String × TextStyle) := []
  currentText : String := ""
  style : TextStyle := .default
  deriving DecidableEq, Repr

def flushStyledSpan (p : StyledSpans) : StyledSpans :=
  if p.currentText ≠ "" then
    { p with spans := p.spans ++ [(p.currentText, p.style)], currentText := "" }
  else
    p

/-- The parameters of a control sequence, the letter that ends it, and what
follows. -/
def scanStyleParams : List Char → List Char × Option Char × List Char
  | [] => ([], none, [])
  | c :: rest =>
      if c.isAlpha then
        ([], some c, rest)
      else
        let (params, letter, after) := scanStyleParams rest
        (c :: params, letter, after)

theorem length_scanStyleParams (chars : List Char) :
    (scanStyleParams chars).2.2.length ≤ chars.length := by
  induction chars with
  | nil => exact Nat.le_refl 0
  | cons c rest ih =>
    rw [scanStyleParams]
    split
    · exact Nat.le_succ _
    · exact Nat.le_succ_of_le ih

/-- A sequence that selects a style ends the span, if the style is another one. -/
def StyledSpans.select (p : StyledSpans) (params : List Char) : StyledSpans :=
  let style := applySgrSegments p.style (parseSgrSegments (String.ofList params))
  if style ≠ p.style then { flushStyledSpan p with style } else p

/-- The loop of `parse_ansi_styled_line`; sequences that select no style, and
an escape character without a bracket, are dropped. -/
def parseStyledChars (p : StyledSpans) (chars : List Char) : StyledSpans :=
  match chars with
  | [] => p
  | ch :: rest =>
      if ch ≠ '\x1b' then
        parseStyledChars { p with currentText := p.currentText.push ch } rest
      else if rest.head? ≠ some '[' then
        parseStyledChars p rest
      else
        let scanned := scanStyleParams rest.tail
        parseStyledChars (if scanned.2.1 = some 'm' then p.select scanned.1 else p) scanned.2.2
termination_by chars.length
decreasing_by
  · exact Nat.lt_succ_self _
  · exact Nat.lt_succ_self _
  · have hTail := length_scanStyleParams rest.tail
    rw [List.length_tail] at hTail
    rw [List.length_cons]
    omega

def parseAnsiStyledLine (text : String) : List (String × TextStyle) :=
  (flushStyledSpan (parseStyledChars {} text.toList)).spans

end WaitAgent.Terminal
