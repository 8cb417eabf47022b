import WaitAgent.Terminal.Ansi
import WaitAgent.Verified.Checked

/-!
# A screen buffer

`ScreenBuffer` of `terminal/engine.rs`: the grid, the cursor, the scroll region
and the scrollback, with every operation that the engine applies to it.  Where
the source indexes or slices a vector, or adds in 16 bits without saturation,
the operation is checked and can end in a `Fault`; operations that do neither
are plain functions.
-/

namespace WaitAgent.Terminal

open Verified

def MAX_SCROLLBACK_LINES : Nat := 10000

structure WriteModes where
  autowrap : Bool
  insert : Bool
  deriving DecidableEq, Repr

/-- The count of scrollback lines that were emitted is left out; nothing but the
test helper that maintains it reads it. -/
structure ScreenBuffer where
  size : TerminalSize
  cells : List (List ScreenCell)
  cursorRow : Nat
  cursorCol : Nat
  pendingWrap : Bool
  scrollTop : Nat
  scrollBottom : Nat
  styledScrollback : List String
  currentStyle : TextStyle
  savedCursor : SavedCursorState
  lastChar : Option Char
  deriving DecidableEq, Repr

/-! ## Rows -/

/-- The row with `cell` in the columns from `start` up to `stop`. -/
def fill (start stop : Nat) (cell : ScreenCell) (row : List ScreenCell) : List ScreenCell :=
  row.mapIdx fun col old => if start ≤ col ∧ col < stop then cell else old

/-- `for cell in &mut row[start..stop]`. -/
def fillSlice (start stop : Nat) (cell : ScreenCell) (row : List ScreenCell) :
    Except Fault (List ScreenCell) :=
  if start ≤ stop ∧ stop ≤ row.length then .ok (fill start stop cell row) else .error .slice

/-- `for col in start..stop`, with `row[col]` assigned each time. -/
def fillEach (start stop : Nat) (cell : ScreenCell) (row : List ScreenCell) :
    Except Fault (List ScreenCell) :=
  if start < stop → stop ≤ row.length then .ok (fill start stop cell row) else .error .index

/-- The row with the columns from `start` up to `stop` copied to `dest`. -/
def copied (start stop dest : Nat) (row : List ScreenCell) : List ScreenCell :=
  row.mapIdx fun col old =>
    if dest ≤ col ∧ col < dest + (stop - start) then row[start + (col - dest)]?.getD old else old

/-- `slice::copy_within`. -/
def copyWithin (start stop dest : Nat) (row : List ScreenCell) :
    Except Fault (List ScreenCell) :=
  if start ≤ stop ∧ stop ≤ row.length ∧ dest + (stop - start) ≤ row.length then
    .ok (copied start stop dest row)
  else
    .error .slice

/-- `row[col] = cell`. -/
def setCell (col : Nat) (cell : ScreenCell) (row : List ScreenCell) :
    Except Fault (List ScreenCell) :=
  if col < row.length then .ok (row.set col cell) else .error .index

def isContinuationCell (cell : ScreenCell) : Bool :=
  cell.ch == WIDE_CONTINUATION

/-- `clear_wide_overlap`, on its row. -/
def clearWideOverlap (col : Nat) (row : List ScreenCell) : Except Fault (List ScreenCell) :=
  match row[col]? with
  | none => .error .index
  | some cell =>
      if isContinuationCell cell then
        let row := row.set col blankCell
        .ok (if col > 0 then row.set (col - 1) blankCell else row)
      else if row[col + 1]?.any isContinuationCell then
        .ok (row.set (col + 1) blankCell)
      else
        .ok row

/-- What `put_char` does where it puts the character itself. -/
def writeCell (col : Nat) (cell : ScreenCell) (row : List ScreenCell) :
    Except Fault (List ScreenCell) :=
  clearWideOverlap col row >>= setCell col cell

/-- `Vec::remove` and then `Vec::insert`: the row that goes, and the others with
the new one among them. -/
def replaceRow (gone fresh : Nat) (row : List ScreenCell) (cells : List (List ScreenCell)) :
    Except Fault (List ScreenCell × List (List ScreenCell)) :=
  match cells[gone]? with
  | none => .error .index
  | some removed =>
      if fresh ≤ (cells.eraseIdx gone).length then
        .ok (removed, (cells.eraseIdx gone).insertIdx fresh row)
      else
        .error .index

namespace ScreenBuffer

/-- `ScreenBuffer::new`. -/
def new (size : TerminalSize) : ScreenBuffer where
  size
  cells := blankCells size
  cursorRow := 0
  cursorCol := 0
  pendingWrap := false
  scrollTop := 0
  scrollBottom := size.rows - 1
  styledScrollback := []
  currentStyle := .default
  savedCursor := {}
  lastChar := none

/-- Change one row, which must be there. -/
def updateRow (s : ScreenBuffer) (row : Nat)
    (f : List ScreenCell → Except Fault (List ScreenCell)) : Except Fault ScreenBuffer :=
  match s.cells[row]? with
  | none => .error .index
  | some cells => do
      let cells ← f cells
      return { s with cells := s.cells.set row cells }

/-- A blank in the current style. -/
def blank (s : ScreenBuffer) : ScreenCell :=
  blankCellWithStyle s.currentStyle

def blankRow (s : ScreenBuffer) : List ScreenCell :=
  blankRowWithStyle s.size.cols s.currentStyle

/-! ## Size -/

/-- The grid of the new size, with the old cells where both have them. -/
def resizedCells (cells : List (List ScreenCell)) (size : TerminalSize) :
    List (List ScreenCell) :=
  (blankCells size).mapIdx fun row blanks =>
    blanks.mapIdx fun col blank => (cells[row]?.bind (·[col]?)).getD blank

def resize (s : ScreenBuffer) (size : TerminalSize) : ScreenBuffer :=
  if s.size = size then
    s
  else
    { s with
      size
      cells := resizedCells s.cells size
      cursorRow := min s.cursorRow (size.rows - 1)
      cursorCol := min s.cursorCol (size.cols - 1)
      pendingWrap := false
      scrollTop := 0
      scrollBottom := size.rows - 1
      savedCursor :=
        if s.savedCursor.valid then
          { s.savedCursor with
            row := min s.savedCursor.row (size.rows - 1)
            col := min s.savedCursor.col (size.cols - 1) }
        else
          s.savedCursor }

/-- RIS; the scrollback is kept. -/
def reset (s : ScreenBuffer) : ScreenBuffer :=
  { s with
    cells := blankCells s.size
    cursorRow := 0
    cursorCol := 0
    pendingWrap := false
    scrollTop := 0
    scrollBottom := s.size.rows - 1
    currentStyle := .default
    savedCursor := {}
    lastChar := none }

/-! ## Rows that move -/

/-- One row goes out and a blank one comes in. -/
def shiftRow (s : ScreenBuffer) (gone fresh : Nat) : Except Fault ScreenBuffer := do
  let (_, cells) ← replaceRow gone fresh s.blankRow s.cells
  return { s with cells }

/-- A line of history, with the oldest dropped where there are too many. -/
def pushScrollback (s : ScreenBuffer) (line : String) : ScreenBuffer :=
  let lines := s.styledScrollback ++ [line]
  { s with styledScrollback := lines.drop (lines.length - MAX_SCROLLBACK_LINES) }

/-- One turn of `scroll_up_in_region`. -/
def scrollUpOnce (top bottom : Nat) (fullScreenRegion : Bool) (s : ScreenBuffer) :
    Except Fault ScreenBuffer := do
  let (removed, cells) ← replaceRow top bottom s.blankRow s.cells
  let s := if fullScreenRegion then s.pushScrollback (renderStyledRow removed) else s
  return { s with cells }

def scrollUpInRegion (s : ScreenBuffer) (count : Nat) : Except Fault ScreenBuffer :=
  let top := s.scrollTop
  let bottom := s.scrollBottom
  if s.cells.isEmpty ∨ s.size.rows = 0 then
    .ok s
  else if top ≥ s.cells.length ∨ bottom ≥ s.cells.length ∨ top > bottom then
    .ok s
  else
    let fullScreenRegion := top == 0 && bottom + 1 == s.cells.length
    repeatM (scrollUpOnce top bottom fullScreenRegion) (min count (bottom - top + 1)) s

def scrollDownInRegion (s : ScreenBuffer) (count : Nat) : Except Fault ScreenBuffer :=
  let top := s.scrollTop
  let bottom := s.scrollBottom
  if s.cells.isEmpty ∨ s.size.rows = 0 then
    .ok s
  else if top ≥ s.cells.length ∨ bottom ≥ s.cells.length ∨ top > bottom then
    .ok s
  else
    repeatM (shiftRow · bottom top) (min count (bottom - top + 1)) s

/-- What `insert_lines` and `delete_lines` share: rows from the cursor's down to
the end of the region move, unless the cursor is outside of it. -/
def shiftLines (s : ScreenBuffer) (count gone fresh : Nat) : Except Fault ScreenBuffer :=
  if s.cells.isEmpty ∨ s.size.rows = 0 then
    .ok s
  else if s.cursorRow < s.scrollTop ∨ s.cursorRow > s.scrollBottom
      ∨ s.scrollBottom ≥ s.cells.length then
    .ok s
  else do
    let s ← repeatM (shiftRow · gone fresh) (min count (s.scrollBottom - s.cursorRow + 1)) s
    return { s with pendingWrap := false }

def insertLines (s : ScreenBuffer) (count : Nat) : Except Fault ScreenBuffer :=
  s.shiftLines count s.scrollBottom s.cursorRow

def deleteLines (s : ScreenBuffer) (count : Nat) : Except Fault ScreenBuffer :=
  s.shiftLines count s.cursorRow s.scrollBottom

/-! ## The cursor -/

def carriageReturn (s : ScreenBuffer) : ScreenBuffer :=
  { s with cursorCol := 0, pendingWrap := false }

def lineFeed (s : ScreenBuffer) : Except Fault ScreenBuffer :=
  if s.size.rows = 0 then
    .ok s
  else
    let s := { s with pendingWrap := false }
    if s.cursorRow ≥ s.scrollBottom then do
      let s ← s.scrollUpInRegion 1
      return { s with cursorRow := s.scrollBottom }
    else do
      let cursorRow ← u16 (s.cursorRow + 1)
      return { s with cursorRow }

def reverseIndex (s : ScreenBuffer) : Except Fault ScreenBuffer :=
  if s.size.rows = 0 then
    .ok s
  else
    let s := { s with pendingWrap := false }
    if s.cursorRow ≤ s.scrollTop then do
      let s ← s.scrollDownInRegion 1
      return { s with cursorRow := s.scrollTop }
    else
      .ok { s with cursorRow := s.cursorRow - 1 }

def backspace (s : ScreenBuffer) : ScreenBuffer :=
  { s with cursorCol := s.cursorCol - 1, pendingWrap := false }

def tab (s : ScreenBuffer) : Except Fault ScreenBuffer :=
  if s.size.cols = 0 then
    .ok s
  else do
    let nextTabStop ← u16 ((s.cursorCol / 8 + 1) * 8)
    return { s with cursorCol := min nextTabStop (s.size.cols - 1), pendingWrap := false }

/-- With origin mode rows count from the top of the region, and the cursor stays
in it. -/
def clampOriginRow (s : ScreenBuffer) (row : Nat) (origin : Bool) : Nat :=
  if origin then
    min (min (s.scrollTop + row) 65535) (min s.scrollBottom (s.size.rows - 1))
  else
    min row (s.size.rows - 1)

def moveCursorTo (s : ScreenBuffer) (row col : Nat) (origin : Bool) : ScreenBuffer :=
  { s with
    cursorRow := s.clampOriginRow row origin
    cursorCol := min col (s.size.cols - 1)
    pendingWrap := false }

def moveCursorRow (s : ScreenBuffer) (row : Nat) (origin : Bool) : ScreenBuffer :=
  { s with cursorRow := s.clampOriginRow row origin, pendingWrap := false }

def moveCursorCol (s : ScreenBuffer) (col : Nat) : ScreenBuffer :=
  { s with cursorCol := min col (s.size.cols - 1), pendingWrap := false }

/-- `isize::clamp` between zero and the last row or column. -/
def clampLast (n : Int) (count : Nat) : Nat :=
  (min n ((count - 1 : Nat) : Int)).toNat

def moveCursorRelative (s : ScreenBuffer) (rowDelta colDelta : Int) : ScreenBuffer :=
  { s with
    cursorRow := clampLast (s.cursorRow + rowDelta) s.size.rows
    cursorCol := clampLast (s.cursorCol + colDelta) s.size.cols
    pendingWrap := false }

def saveCursor (s : ScreenBuffer) : ScreenBuffer :=
  { s with
    savedCursor :=
      { row := s.cursorRow, col := s.cursorCol, style := s.currentStyle, valid := true } }

def restoreCursor (s : ScreenBuffer) : ScreenBuffer :=
  if s.savedCursor.valid then
    { s with
      cursorRow := min s.savedCursor.row (s.size.rows - 1)
      cursorCol := min s.savedCursor.col (s.size.cols - 1)
      currentStyle := s.savedCursor.style
      pendingWrap := false }
  else
    s

/-- DECSTBM, which also takes the cursor home. -/
def setScrollRegion (s : ScreenBuffer) (top bottom : Nat) (origin : Bool) : ScreenBuffer :=
  if s.size.rows = 0 then
    { s with scrollTop := 0, scrollBottom := 0, cursorRow := 0, cursorCol := 0 }
  else
    let maxRow := s.size.rows - 1
    let top := min top maxRow
    let bottom := min (max bottom top) maxRow
    { s with
      scrollTop := top
      scrollBottom := bottom
      cursorRow := if origin then top else 0
      cursorCol := 0
      pendingWrap := false }

def resetScrollRegion (s : ScreenBuffer) (origin : Bool) : ScreenBuffer :=
  s.setScrollRegion 0 (s.size.rows - 1) origin

/-! ## Cells of a row -/

/-- `insert_blanks_at_cursor`: the cells from the cursor on move to the right. -/
def insertBlanksAtCursor (s : ScreenBuffer) (count : Nat) : Except Fault ScreenBuffer :=
  if s.cells.isEmpty ∨ s.size.cols = 0 then
    .ok s
  else
    match s.cells[s.cursorRow]? with
    | none => .ok s
    | some row =>
        let start := s.cursorCol
        if start ≥ row.length then
          .ok s
        else
          let count := min count (row.length - start)
          s.updateRow s.cursorRow fun row => do
            let row ← copyWithin start (row.length - count) (start + count) row
            fillSlice start (start + count) s.blank row

def insertChars (s : ScreenBuffer) (count : Nat) : Except Fault ScreenBuffer := do
  let s ← s.insertBlanksAtCursor (max count 1)
  return { s with pendingWrap := false }

/-- What `erase_chars` and `delete_chars` share: the row of the cursor is changed
from the cursor on, if it is there. -/
def editCursorRow (s : ScreenBuffer)
    (f : (start : Nat) → List ScreenCell → Except Fault (List ScreenCell)) :
    Except Fault ScreenBuffer :=
  if s.cells.isEmpty ∨ s.size.rows = 0 ∨ s.size.cols = 0 then
    .ok s
  else
    match s.cells[s.cursorRow]? with
    | none => .ok s
    | some row =>
        if s.cursorCol ≥ row.length then
          .ok s
        else do
          let s ← s.updateRow s.cursorRow (f s.cursorCol)
          return { s with pendingWrap := false }

def eraseChars (s : ScreenBuffer) (count : Nat) : Except Fault ScreenBuffer :=
  s.editCursorRow fun start row =>
    fillSlice start (min (start + max 1 count) row.length) s.blank row

def deleteChars (s : ScreenBuffer) (count : Nat) : Except Fault ScreenBuffer :=
  s.editCursorRow fun start row => do
    let count := min (max 1 count) (row.length - start)
    let moved ← copyWithin (start + count) row.length start row
    fillSlice (row.length - count) row.length s.blank moved

/-! ## Clearing -/

/-- The rows up to the one of the cursor, and that one up to the cursor. -/
def clearAbove (blank : ScreenCell) (cursorCol : Nat) :
    (cursorRow : Nat) → List (List ScreenCell) → Except Fault (List (List ScreenCell))
  | _, [] => .error .index
  | 0, row :: rows => do
      let row ← fillEach 0 (cursorCol + 1) blank row
      return row :: rows
  | cursorRow + 1, row :: rows => do
      let row ← fillEach 0 (row.length - 1 + 1) blank row
      let rows ← clearAbove blank cursorCol cursorRow rows
      return row :: rows

/-- The row of the cursor from the cursor on, and all the rows below. -/
def clearBelow (s : ScreenBuffer) : List (List ScreenCell) :=
  s.cells.mapIdx fun row cells =>
    if row < s.cursorRow then
      cells
    else
      fill (if row = s.cursorRow then s.cursorCol else 0) cells.length s.blank cells

def clearScreen (s : ScreenBuffer) (mode : Nat) : Except Fault ScreenBuffer :=
  if s.cells.isEmpty ∨ s.size.rows = 0 then
    .ok s
  else if mode = 0 then
    .ok { s with cells := s.clearBelow }
  else if mode = 1 then do
    let cells ← clearAbove s.blank s.cursorCol s.cursorRow s.cells
    return { s with cells }
  else
    .ok { s with
          cells := blankCellsWithStyle s.size s.currentStyle
          cursorRow := 0
          cursorCol := 0
          pendingWrap := false }

def clearLine (s : ScreenBuffer) (mode : Nat) : Except Fault ScreenBuffer :=
  if s.cells.isEmpty ∨ s.size.rows = 0 ∨ s.cursorRow ≥ s.cells.length then
    .ok s
  else
    s.updateRow s.cursorRow fun row =>
      if mode = 0 then
        fillEach s.cursorCol row.length s.blank row
      else if mode = 1 then
        fillEach 0 (s.cursorCol + 1) s.blank row
      else
        .ok (fill 0 row.length s.blank row)

/-! ## Writing -/

/-- Where the cursor goes after a character of the given width. -/
def advance (s : ScreenBuffer) (width : Nat) (modes : WriteModes) : Except Fault ScreenBuffer := do
  let next ← u16 (s.cursorCol + width)
  if next ≥ s.size.cols then
    return { s with cursorCol := s.size.cols - 1, pendingWrap := modes.autowrap }
  else
    return { s with cursorCol := next }

/-- The wrap that a character at the end of the line left pending. -/
def wrapPending (s : ScreenBuffer) : Except Fault ScreenBuffer :=
  if s.pendingWrap then do
    let s ← { s with cursorCol := 0 }.lineFeed
    return { s with pendingWrap := false }
  else
    .ok s

/-- In insert mode, make room for the character. -/
def makeRoom (s : ScreenBuffer) (ch : Char) (modes : WriteModes) : Except Fault ScreenBuffer :=
  if modes.insert then s.insertBlanksAtCursor (charDisplayWidth ch) else .ok s

/-- Put the second half of a wide character after the cursor. -/
def putContinuation (s : ScreenBuffer) : Except Fault ScreenBuffer :=
  s.updateRow s.cursorRow
    (setCell (s.cursorCol + 1) { ch := WIDE_CONTINUATION, style := s.currentStyle })

/-- Put the character, or the first half of it, at the cursor. -/
def putCell (s : ScreenBuffer) (ch : Char) : Except Fault ScreenBuffer :=
  s.updateRow s.cursorRow (writeCell s.cursorCol { ch, style := s.currentStyle })

/-- Both halves of a wide character. -/
def putWide (s : ScreenBuffer) (ch : Char) : Except Fault ScreenBuffer := do
  let s ← s.putCell ch
  s.putContinuation

/-- The first cell that `put_char` writes, and `last_char`. -/
def putFirst (s : ScreenBuffer) (ch : Char) : Except Fault ScreenBuffer := do
  let s ← s.putCell ch
  return { s with lastChar := some ch }

/-- `put_char` once the cursor is where the character goes. -/
def place (s : ScreenBuffer) (ch : Char) (modes : WriteModes) : Except Fault ScreenBuffer := do
  let width := charDisplayWidth ch
  let s ← s.putFirst ch
  if width = 2 ∧ s.size.cols > 1 then
    let next ← u16 (s.cursorCol + 1)
    if next ≥ s.size.cols then
      -- without autowrap the character is clipped at the right margin
      if modes.autowrap then
        let s ← { s with cursorCol := 0 }.lineFeed
        let s ← s.putWide ch
        s.advance width modes
      else
        return s
    else
      let s ← s.putContinuation
      s.advance width modes
  else
    s.advance width modes

def putChar (s : ScreenBuffer) (ch : Char) (modes : WriteModes) : Except Fault ScreenBuffer :=
  if s.size.rows = 0 ∨ s.size.cols = 0 then
    .ok s
  else if charDisplayWidth ch = 0 then
    .ok s
  else do
    let s ← s.wrapPending
    let s ← s.makeRoom ch modes
    s.place ch modes

def repeatLastChar (s : ScreenBuffer) (count : Nat) (modes : WriteModes) :
    Except Fault ScreenBuffer :=
  match s.lastChar with
  | none => .ok s
  | some ch => repeatM (·.putChar ch modes) count s

/-! ## Styles -/

/-- `value.min(255) as u8`. -/
def byte (value : Nat) : UInt8 :=
  UInt8.ofNat (min value 255)

/-- `38:5:n`, `38:2:r:g:b` or `38:2:colorspace:r:g:b`. -/
def colonColor (subparams : List Nat) : Option ColorValue :=
  match subparams with
  | 5 :: rest => rest.head?.map fun value => .indexed (byte value)
  | 2 :: rest =>
      let operands := if subparams.length ≥ 5 then rest.drop 1 else rest
      match operands with
      | red :: green :: blue :: _ => some (.rgb (byte red) (byte green) (byte blue))
      | _ => none
  | _ => none

/-- `38;5;n` or `38;2;r;g;b`: the colour, and how many of the following segments
it took. -/
def semicolonColor (rest : List SgrSegment) : Option (ColorValue × Nat) :=
  match rest.map (·.code) with
  | 5 :: value :: _ => some (.indexed (byte value), 2)
  | 2 :: red :: green :: blue :: _ => some (.rgb (byte red) (byte green) (byte blue), 4)
  | _ => none

/-- `38` and `48`, with either form of their operands. -/
def colorOperand (segment : SgrSegment) (rest : List SgrSegment) : Option (ColorValue × Nat) :=
  if segment.subparams.isEmpty then
    semicolonColor rest
  else
    (colonColor segment.subparams).map fun color => (color, 0)

/-- One turn of `apply_sgr`: the style, and how many of the following segments
were operands. -/
def applySegment (style : TextStyle) (segment : SgrSegment) (rest : List SgrSegment) :
    TextStyle × Nat :=
  let code := segment.code
  if code = 0 then (.default, 0)
  else if code = 1 then ({ style with bold := true }, 0)
  else if code = 2 then ({ style with dim := true }, 0)
  else if code = 3 then ({ style with italic := true }, 0)
  else if code = 4 then
    match segment.subparams.head? with
    | some kind =>
        if kind = 0 then ({ style with underline := false }, 0)
        else if kind ≤ 5 then ({ style with underline := true }, 0)
        else (style, 0)
    | none => ({ style with underline := true }, 0)
  else if code = 5 then ({ style with blink := true }, 0)
  else if code = 7 then ({ style with inverse := true }, 0)
  else if code = 9 then ({ style with strikethrough := true }, 0)
  else if code = 22 then ({ style with bold := false, dim := false }, 0)
  else if code = 23 then ({ style with italic := false }, 0)
  else if code = 24 then ({ style with underline := false }, 0)
  else if code = 25 then ({ style with blink := false }, 0)
  else if code = 27 then ({ style with inverse := false }, 0)
  else if code = 29 then ({ style with strikethrough := false }, 0)
  else if 30 ≤ code ∧ code ≤ 37 then
    ({ style with foreground := some (.indexed (UInt8.ofNat (code - 30))) }, 0)
  else if code = 39 then ({ style with foreground := none }, 0)
  else if 40 ≤ code ∧ code ≤ 47 then
    ({ style with background := some (.indexed (UInt8.ofNat (code - 40))) }, 0)
  else if code = 49 then ({ style with background := none }, 0)
  else if 90 ≤ code ∧ code ≤ 97 then
    ({ style with foreground := some (.indexed (UInt8.ofNat (code - 90 + 8))) }, 0)
  else if 100 ≤ code ∧ code ≤ 107 then
    ({ style with background := some (.indexed (UInt8.ofNat (code - 100 + 8))) }, 0)
  else if code = 38 then
    match colorOperand segment rest with
    | some (color, taken) => ({ style with foreground := some color }, taken)
    | none => (style, 0)
  else if code = 48 then
    match colorOperand segment rest with
    | some (color, taken) => ({ style with background := some color }, taken)
    | none => (style, 0)
  else if code = 58 ∧ segment.subparams.isEmpty then
    -- the underline colour is read and discarded
    match rest.head?.map (·.code) with
    | some 5 => (style, 2)
    | some 2 => (style, 4)
    | _ => (style, 0)
  else (style, 0)

def applySgr (s : ScreenBuffer) (params : List SgrSegment) : ScreenBuffer :=
  if params.isEmpty then
    { s with currentStyle := .default }
  else
    { s with currentStyle := foldSegments applySegment 0 s.currentStyle params }

end ScreenBuffer

end WaitAgent.Terminal
