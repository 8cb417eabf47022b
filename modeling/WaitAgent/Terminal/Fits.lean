import WaitAgent.Terminal.Screen

/-!
# Buffers that fit their size

A screen buffer fits a size when its grid has the rows and columns of the size,
and the cursor, the scroll region and a saved cursor are inside.  Every
operation keeps this, with any parameters, and hits no fault, as long as the
size is one that the code can handle (`TerminalSize.Safe`).
-/

namespace WaitAgent.Terminal

open Verified

/-- The sizes on which no operation faults: no rows without columns, and the
last tab stop is a 16-bit number. -/
structure TerminalSize.Safe (size : TerminalSize) : Prop where
  cols : size.cols = 0 → size.rows = 0
  tab : size.cols ≤ 65528

/-- The buffer has the size, and everything that points into the grid is inside. -/
structure ScreenBuffer.Fits (size : TerminalSize) (s : ScreenBuffer) : Prop where
  sized : s.size = size
  rows : s.cells.length = size.rows
  cells : ∀ row ∈ s.cells, row.length = size.cols
  cursorRow : s.cursorRow ≤ size.rows - 1
  cursorCol : s.cursorCol ≤ size.cols - 1
  region : s.scrollTop ≤ s.scrollBottom
  bottom : s.scrollBottom ≤ size.rows - 1
  saved : s.savedCursor.valid = true →
    s.savedCursor.row ≤ size.rows - 1 ∧ s.savedCursor.col ≤ size.cols - 1
  scrollback : s.styledScrollback.length ≤ MAX_SCROLLBACK_LINES

/-! ## Rows -/

@[simp] theorem length_fill (start stop : Nat) (cell : ScreenCell) (row : List ScreenCell) :
    (fill start stop cell row).length = row.length := by
  simp [fill]

@[simp] theorem length_copied (start stop dest : Nat) (row : List ScreenCell) :
    (copied start stop dest row).length = row.length := by
  simp [copied]

variable {row : List ScreenCell} {cell : ScreenCell} {col : Nat}

theorem fillSlice_eq {start stop : Nat} (hStart : start ≤ stop) (hStop : stop ≤ row.length) :
    fillSlice start stop cell row = .ok (fill start stop cell row) :=
  if_pos ⟨hStart, hStop⟩

theorem fillEach_eq {start stop : Nat} (hStop : stop ≤ row.length) :
    fillEach start stop cell row = .ok (fill start stop cell row) :=
  if_pos fun _ => hStop

theorem copyWithin_eq {start stop dest : Nat} (hStart : start ≤ stop) (hStop : stop ≤ row.length)
    (hDest : dest + (stop - start) ≤ row.length) :
    copyWithin start stop dest row = .ok (copied start stop dest row) :=
  if_pos ⟨hStart, hStop, hDest⟩

theorem setCell_eq (hCol : col < row.length) : setCell col cell row = .ok (row.set col cell) :=
  if_pos hCol

/-- The row that `clear_wide_overlap` leaves. -/
def overlapCleared (col : Nat) (row : List ScreenCell) : List ScreenCell :=
  if row[col]?.any isContinuationCell then
    (row.set col blankCell).set (col - 1) blankCell
  else if row[col + 1]?.any isContinuationCell then
    row.set (col + 1) blankCell
  else
    row

@[simp] theorem length_overlapCleared (col : Nat) (row : List ScreenCell) :
    (overlapCleared col row).length = row.length := by
  unfold overlapCleared
  split
  · simp
  · split <;> simp

theorem clearWideOverlap_eq (hCol : col < row.length) :
    clearWideOverlap col row = .ok (overlapCleared col row) := by
  unfold clearWideOverlap overlapCleared
  rw [List.getElem?_eq_getElem hCol]
  dsimp only [Option.any_some]
  split
  · congr 1
    split
    · rfl
    · rename_i hFirst
      rw [Nat.eq_zero_of_not_pos hFirst, List.set_set]
  · split <;> rfl

theorem writeCell_eq (hCol : col < row.length) :
    writeCell col cell row = .ok ((overlapCleared col row).set col cell) := by
  rw [writeCell, clearWideOverlap_eq hCol]
  exact setCell_eq (by rwa [length_overlapCleared])

theorem replaceRow_eq {gone fresh : Nat} {cells : List (List ScreenCell)}
    (hGone : gone < cells.length) (hFresh : fresh < cells.length) :
    replaceRow gone fresh row cells =
      .ok (cells.get ⟨gone, hGone⟩, (cells.eraseIdx gone).insertIdx fresh row) := by
  unfold replaceRow
  rw [List.getElem?_eq_getElem hGone]
  dsimp only
  rw [if_pos (by rw [List.length_eraseIdx_of_lt hGone]; omega)]
  rfl

theorem length_replaced {gone fresh : Nat} {cells : List (List ScreenCell)}
    (row : List ScreenCell) (hGone : gone < cells.length) (hFresh : fresh < cells.length) :
    ((cells.eraseIdx gone).insertIdx fresh row).length = cells.length := by
  have hLength : (cells.eraseIdx gone).length = cells.length - 1 :=
    List.length_eraseIdx_of_lt hGone
  rw [List.length_insertIdx_of_le_length (by omega), hLength]
  omega

namespace ScreenBuffer

variable {size : TerminalSize} {s : ScreenBuffer}

/-! ## Rows that move -/

theorem Fits.blankRow (h : s.Fits size) : s.blankRow.length = size.cols := by
  rw [ScreenBuffer.blankRow, h.sized]
  exact List.length_replicate

variable {modes : WriteModes} {count : Nat} {gone fresh : Nat} {ch : Char}

/-- A row that goes and a blank one that comes leave a grid. -/
theorem Fits.replaceRow (h : s.Fits size) (hGone : gone < size.rows)
    (hFresh : fresh < size.rows) :
    Yields (replaceRow gone fresh s.blankRow s.cells) fun r =>
      r.2.length = size.rows ∧ ∀ row ∈ r.2, row.length = size.cols := by
  rw [← h.rows] at hGone hFresh
  rw [replaceRow_eq hGone hFresh]
  have hFresh' : fresh ≤ (s.cells.eraseIdx gone).length := by
    rw [List.length_eraseIdx_of_lt hGone]
    omega
  refine .ok ⟨(length_replaced s.blankRow hGone hFresh).trans h.rows, fun row hRow => ?_⟩
  rcases (List.mem_insertIdx hFresh').mp hRow with rfl | hOld
  · exact h.blankRow
  · exact h.cells row (List.mem_of_mem_eraseIdx hOld)

/-- The cells change, and nothing else that matters. -/
theorem Fits.withCells (h : s.Fits size) {cells : List (List ScreenCell)}
    (hRows : cells.length = size.rows) (hCells : ∀ row ∈ cells, row.length = size.cols) :
    ({ s with cells } : ScreenBuffer).Fits size :=
  { h with rows := hRows, cells := hCells }

theorem shiftRow_yields (h : s.Fits size) (hGone : gone < size.rows)
    (hFresh : fresh < size.rows) :
    Yields (s.shiftRow gone fresh) (Fits size) :=
  (h.replaceRow hGone hFresh).bind fun _ hr => .pure (h.withCells hr.1 hr.2)

theorem Fits.withScrollback (h : s.Fits size) {lines : List String}
    (hLines : lines.length ≤ MAX_SCROLLBACK_LINES) :
    ({ s with styledScrollback := lines } : ScreenBuffer).Fits size :=
  { h with scrollback := hLines }

theorem Fits.pushScrollback (h : s.Fits size) (line : String) :
    (s.pushScrollback line).Fits size := by
  apply h.withScrollback
  rw [List.length_drop]
  omega

@[simp] theorem pushScrollback_cursorCol (line : String) :
    (s.pushScrollback line).cursorCol = s.cursorCol := by
  rw [ScreenBuffer.pushScrollback]

theorem scrollUpOnce_yields {col top bottom : Nat} {full : Bool}
    (hTop : top < size.rows) (hBottom : bottom < size.rows)
    (h : s.Fits size ∧ s.cursorCol = col) :
    Yields (scrollUpOnce top bottom full s) fun s' => s'.Fits size ∧ s'.cursorCol = col := by
  apply (h.1.replaceRow hTop hBottom).bind
  intro r hr
  cases full with
  | true =>
    simp only [if_true]
    refine .pure ⟨(h.1.pushScrollback (renderStyledRow r.1)).withCells hr.1 hr.2, ?_⟩
    simpa only [pushScrollback_cursorCol] using h.2
  | false => exact .pure ⟨h.1.withCells hr.1 hr.2, h.2⟩

theorem u16_eq {n : Nat} (h : n < 65536) : u16 n = .ok n :=
  if_pos h

section

variable (h : s.Fits size)

include h

/-- Scrolling up leaves the column of the cursor. -/
theorem scrollUpInRegion_yields (count : Nat) :
    Yields (s.scrollUpInRegion count) fun s' =>
      s'.Fits size ∧ s'.cursorCol = s.cursorCol := by
  unfold scrollUpInRegion
  dsimp only
  split
  · exact .ok ⟨h, rfl⟩
  · split
    · exact .ok ⟨h, rfl⟩
    · rename_i hRegion
      rw [h.rows] at hRegion
      refine Yields.repeatM (fun s' hs' => ?_) _ s ⟨h, rfl⟩
      exact scrollUpOnce_yields (by omega) (by omega) hs'

theorem scrollDownInRegion_yields (count : Nat) :
    Yields (s.scrollDownInRegion count) (Fits size) := by
  unfold scrollDownInRegion
  dsimp only
  split
  · exact .ok h
  · split
    · exact .ok h
    · rename_i hRegion
      rw [h.rows] at hRegion
      refine Yields.repeatM (fun s' hs' => ?_) _ s h
      exact shiftRow_yields hs' (by omega) (by omega)

theorem shiftLines_yields (count : Nat) (hGone : gone = s.cursorRow ∨ gone = s.scrollBottom)
    (hFresh : fresh = s.cursorRow ∨ fresh = s.scrollBottom) :
    Yields (s.shiftLines count gone fresh) (Fits size) := by
  unfold shiftLines
  split
  · exact .ok h
  · split
    · exact .ok h
    · rename_i hRegion
      rw [h.rows] at hRegion
      refine (Yields.repeatM (fun s' hs' => ?_) _ s h).bind fun s' hs' => .pure { hs' with }
      exact shiftRow_yields hs' (by omega) (by omega)

theorem insertLines_yields (count : Nat) : Yields (s.insertLines count) (Fits size) :=
  shiftLines_yields h count (.inr rfl) (.inl rfl)

theorem deleteLines_yields (count : Nat) : Yields (s.deleteLines count) (Fits size) :=
  shiftLines_yields h count (.inl rfl) (.inr rfl)

theorem lineFeed_yields :
    Yields s.lineFeed fun s' => s'.Fits size ∧ s'.cursorCol = s.cursorCol := by
  unfold lineFeed
  split
  · exact .ok ⟨h, rfl⟩
  · have hQuiet : ({ s with pendingWrap := false } : ScreenBuffer).Fits size := { h with }
    have hRows := size.rows_lt
    have hBottom := h.bottom
    dsimp only
    split
    · apply (scrollUpInRegion_yields hQuiet 1).bind
      exact fun s' hs' => .pure ⟨{ hs'.1 with cursorRow := hs'.1.bottom }, hs'.2⟩
    · rename_i hAbove
      rw [u16_eq (by omega)]
      exact .ok ⟨{ h with cursorRow := by dsimp only; omega }, rfl⟩

theorem reverseIndex_yields : Yields s.reverseIndex (Fits size) := by
  unfold reverseIndex
  split
  · exact .ok h
  · have hQuiet : ({ s with pendingWrap := false } : ScreenBuffer).Fits size := { h with }
    have hRow := h.cursorRow
    dsimp only
    split
    · apply (scrollDownInRegion_yields hQuiet 1).bind
      exact fun s' hs' => .pure { hs' with cursorRow := hs'.region.trans hs'.bottom }
    · exact .ok { h with cursorRow := by dsimp only; omega }

end

/-! ## The cursor -/

theorem clampLast_le (n : Int) (count : Nat) : clampLast n count ≤ count - 1 := by
  unfold clampLast
  omega

section

variable (h : s.Fits size)

include h

theorem Fits.carriageReturn : s.carriageReturn.Fits size :=
  { h with cursorCol := Nat.zero_le _ }

theorem Fits.backspace : s.backspace.Fits size :=
  { h with cursorCol := (Nat.sub_le _ _).trans h.cursorCol }

theorem tab_yields : YieldsUnless (¬ size.Safe) s.tab (Fits size) := by
  unfold tab
  refine .ite (fun _ => .ok h) fun hCols => ?_
  rw [h.sized] at hCols
  have hCol := h.cursorCol
  by_cases hStop : (s.cursorCol / 8 + 1) * 8 < 65536
  · rw [u16_eq hStop]
    exact .ok { h with cursorCol := by rw [h.sized]; exact Nat.min_le_right _ _ }
  · rw [u16, if_neg hStop]
    refine .inr ⟨fun hSafe => ?_, _, rfl⟩
    have hTab := hSafe.tab
    omega

theorem Fits.clampOriginRow_le (row : Nat) (origin : Bool) :
    s.clampOriginRow row origin ≤ size.rows - 1 := by
  unfold clampOriginRow
  rw [h.sized]
  split <;> omega

theorem Fits.moveCursorTo (row col : Nat) (origin : Bool) :
    (s.moveCursorTo row col origin).Fits size :=
  { h with
    cursorRow := h.clampOriginRow_le row origin
    cursorCol := by rw [← h.sized]; exact Nat.min_le_right _ _ }

theorem Fits.moveCursorRow (row : Nat) (origin : Bool) :
    (s.moveCursorRow row origin).Fits size :=
  { h with cursorRow := h.clampOriginRow_le row origin }

theorem Fits.moveCursorCol (col : Nat) : (s.moveCursorCol col).Fits size :=
  { h with cursorCol := by rw [← h.sized]; exact Nat.min_le_right _ _ }

theorem Fits.moveCursorRelative (rowDelta colDelta : Int) :
    (s.moveCursorRelative rowDelta colDelta).Fits size :=
  { h with
    cursorRow := by rw [← h.sized]; exact clampLast_le _ _
    cursorCol := by rw [← h.sized]; exact clampLast_le _ _ }

theorem Fits.saveCursor : s.saveCursor.Fits size :=
  { h with saved := fun _ => ⟨h.cursorRow, h.cursorCol⟩ }

theorem Fits.restoreCursor : s.restoreCursor.Fits size := by
  unfold ScreenBuffer.restoreCursor
  split
  · refine { h with cursorRow := ?_, cursorCol := ?_ }
    · rw [← h.sized]
      exact Nat.min_le_right _ _
    · rw [← h.sized]
      exact Nat.min_le_right _ _
  · exact h

theorem Fits.setScrollRegion (top bottom : Nat) (origin : Bool) :
    (s.setScrollRegion top bottom origin).Fits size := by
  have hRows : s.size.rows = size.rows := by rw [h.sized]
  unfold ScreenBuffer.setScrollRegion
  split
  · exact { h with
      cursorRow := Nat.zero_le _
      cursorCol := Nat.zero_le _
      region := Nat.le_refl _
      bottom := Nat.zero_le _ }
  · refine { h with cursorRow := ?_, cursorCol := Nat.zero_le _, region := ?_, bottom := ?_ }
    · dsimp only
      split <;> omega
    · dsimp only
      omega
    · dsimp only
      omega

theorem Fits.resetScrollRegion (origin : Bool) : (s.resetScrollRegion origin).Fits size :=
  h.setScrollRegion _ _ origin

theorem Fits.applySgr (params : List SgrSegment) : (s.applySgr params).Fits size := by
  unfold ScreenBuffer.applySgr
  split <;> exact { h with }

end

/-! ## Blank screens and other sizes -/

theorem mem_blankCells {style : TextStyle} {row : List ScreenCell}
    (hRow : row ∈ blankCellsWithStyle size style) : row.length = size.cols := by
  rw [List.eq_of_mem_replicate hRow]
  exact List.length_replicate

theorem length_blankCells (size : TerminalSize) (style : TextStyle) :
    (blankCellsWithStyle size style).length = size.rows :=
  List.length_replicate

theorem new_fits (size : TerminalSize) : (new size).Fits size where
  sized := rfl
  rows := length_blankCells size .default
  cells := fun _ => mem_blankCells
  cursorRow := Nat.zero_le _
  cursorCol := Nat.zero_le _
  region := Nat.zero_le _
  bottom := Nat.le_refl _
  saved := nofun
  scrollback := Nat.zero_le _

theorem Fits.reset (h : s.Fits size) : s.reset.Fits size where
  sized := h.sized
  rows := by
    rw [← h.sized]
    exact length_blankCells s.size .default
  cells := by
    rw [ScreenBuffer.reset, h.sized]
    exact fun _ => mem_blankCells
  cursorRow := Nat.zero_le _
  cursorCol := Nat.zero_le _
  region := Nat.zero_le _
  bottom := by
    rw [← h.sized]
    exact Nat.le_refl _
  saved := nofun
  scrollback := h.scrollback

theorem Fits.resize {size' : TerminalSize} (h : s.Fits size) : (s.resize size').Fits size' := by
  unfold ScreenBuffer.resize
  split
  · rename_i hSame
    rw [h.sized] at hSame
    exact hSame ▸ h
  · refine
      { sized := rfl
        rows := ?_
        cells := fun row hRow => ?_
        cursorRow := Nat.min_le_right _ _
        cursorCol := Nat.min_le_right _ _
        region := Nat.zero_le _
        bottom := Nat.le_refl _
        saved := ?_
        scrollback := h.scrollback }
    · simp [resizedCells, blankCells, length_blankCells]
    · obtain ⟨i, hi, rfl⟩ := List.mem_mapIdx.mp hRow
      simp [blankCells, blankCellsWithStyle, blankRowWithStyle]
    · dsimp only
      split
      · exact fun _ => ⟨Nat.min_le_right _ _, Nat.min_le_right _ _⟩
      · rename_i hInvalid
        exact fun hValid => absurd hValid hInvalid

/-! ## Cells of a row -/

/-- Only cells differ. -/
def SameButCells (s s' : ScreenBuffer) : Prop :=
  ∃ cells, s' = { s with cells }

/-- A change of one row that keeps its length. -/
theorem updateRow_yields (h : s.Fits size) {row : Nat} (hRow : row < size.rows)
    {f : List ScreenCell → Except Fault (List ScreenCell)}
    (hf : ∀ cells, s.cells[row]? = some cells → cells.length = size.cols →
      Yields (f cells) (·.length = cells.length)) :
    Yields (s.updateRow row f) fun s' => s'.Fits size ∧ SameButCells s s' := by
  have hIn : row < s.cells.length := by rwa [h.rows]
  have hCells := List.getElem?_eq_getElem hIn
  have hLength := h.cells _ (List.getElem_mem hIn)
  unfold updateRow
  rw [hCells]
  apply (hf _ hCells hLength).bind
  intro cells hNew
  refine .pure ⟨h.withCells ?_ ?_, _, rfl⟩
  · rw [List.length_set, h.rows]
  · intro other hOther
    rcases List.mem_or_eq_of_mem_set hOther with hOld | rfl
    · exact h.cells other hOld
    · exact hNew.trans hLength

/-- The cursor is in the grid, unless there is none. -/
theorem Fits.cursorRow_lt (h : s.Fits size) (hRows : size.rows ≠ 0) :
    s.cursorRow < size.rows := by
  have hRow := h.cursorRow
  omega

theorem Fits.cursorCol_lt (h : s.Fits size) (hCols : size.cols ≠ 0) :
    s.cursorCol < size.cols := by
  have hCol := h.cursorCol
  omega

/-- The row of the cursor. -/
def cursorCells (s : ScreenBuffer) : Option (List ScreenCell) :=
  s.cells[s.cursorRow]?

/-- The row at the cursor, in a grid that has one. -/
theorem Fits.exists_cursorCells (h : s.Fits size) (hRows : size.rows ≠ 0) :
    ∃ row, s.cursorCells = some row ∧ row.length = size.cols := by
  have hIn : s.cursorRow < s.cells.length := by
    rw [h.rows]
    exact h.cursorRow_lt hRows
  exact ⟨_, List.getElem?_eq_getElem hIn, h.cells _ (List.getElem_mem hIn)⟩

theorem insertBlanksAtCursor_yields (h : s.Fits size) (count : Nat) :
    Yields (s.insertBlanksAtCursor count) fun s' => s'.Fits size ∧ SameButCells s s' := by
  unfold insertBlanksAtCursor
  split
  · exact .ok ⟨h, _, rfl⟩
  · split
    · exact .ok ⟨h, _, rfl⟩
    · rename_i row hCells
      have hIn := (List.getElem?_eq_some_iff.mp hCells).1
      dsimp only
      split
      · exact .ok ⟨h, _, rfl⟩
      · rename_i hStart
        refine updateRow_yields h (by rwa [h.rows] at hIn) fun cells hCells' _ => ?_
        obtain rfl : row = cells := Option.some.inj (hCells.symm.trans hCells')
        rw [copyWithin_eq (by omega) (by omega) (by omega)]
        exact ⟨_, fillSlice_eq (by omega) (by rw [length_copied]; omega), by simp⟩

theorem insertChars_yields (h : s.Fits size) (count : Nat) :
    Yields (s.insertChars count) (Fits size) :=
  (insertBlanksAtCursor_yields h _).bind fun _ hs' => .pure { hs'.1 with }

/-- A change of the row of the cursor, from the cursor on. -/
theorem editCursorRow_yields (h : s.Fits size)
    {f : Nat → List ScreenCell → Except Fault (List ScreenCell)}
    (hf : ∀ row : List ScreenCell, s.cursorCol < row.length →
      Yields (f s.cursorCol row) (·.length = row.length)) :
    Yields (s.editCursorRow f) (Fits size) := by
  unfold editCursorRow
  split
  · exact .ok h
  · split
    · exact .ok h
    · rename_i row hCells
      have hIn := (List.getElem?_eq_some_iff.mp hCells).1
      split
      · exact .ok h
      · rename_i hStart
        refine (updateRow_yields h (by rwa [h.rows] at hIn) fun cells hCells' _ => ?_).bind
          fun _ hs' => .pure { hs'.1 with }
        obtain rfl : row = cells := Option.some.inj (hCells.symm.trans hCells')
        exact hf row (Nat.lt_of_not_le hStart)

theorem eraseChars_yields (h : s.Fits size) (count : Nat) :
    Yields (s.eraseChars count) (Fits size) := by
  refine editCursorRow_yields h fun row hStart => ?_
  exact ⟨_, fillSlice_eq (by omega) (Nat.min_le_right _ _), by simp⟩

theorem deleteChars_yields (h : s.Fits size) (count : Nat) :
    Yields (s.deleteChars count) (Fits size) := by
  refine editCursorRow_yields h fun row hStart => ?_
  dsimp only
  rw [copyWithin_eq (by omega) (Nat.le_refl _) (by omega)]
  exact ⟨_, fillSlice_eq (by omega) (by rw [length_copied]), by simp⟩

/-! ## Clearing -/

theorem clearBelow_length (h : s.Fits size) : ∀ row ∈ s.clearBelow, row.length = size.cols := by
  intro row hMem
  obtain ⟨i, hi, rfl⟩ := List.mem_mapIdx.mp hMem
  have hOld := h.cells _ (List.getElem_mem hi)
  split
  · exact hOld
  · split <;> rwa [length_fill]

theorem clearAbove_yields {blank : ScreenCell} {col cols : Nat} (hCol : col < cols)
    (cells : List (List ScreenCell)) :
    ∀ row < cells.length, (∀ other ∈ cells, other.length = cols) →
      Yields (clearAbove blank col row cells) fun cells' =>
        cells'.length = cells.length ∧ ∀ other ∈ cells', other.length = cols := by
  induction cells with
  | nil => exact fun row hRow => absurd hRow (Nat.not_lt_zero _)
  | cons first rest ih =>
    intro row hRow hCells
    have hFirst := hCells first List.mem_cons_self
    have hRest := fun other hOther => hCells other (List.mem_cons_of_mem _ hOther)
    cases row with
    | zero =>
      rw [clearAbove, fillEach_eq (by omega)]
      exact .ok ⟨rfl, List.forall_mem_cons.mpr ⟨by rwa [length_fill], hRest⟩⟩
    | succ row =>
      rw [clearAbove, fillEach_eq (by omega)]
      refine (ih row (Nat.lt_of_succ_lt_succ hRow) hRest).bind fun rest' hRest' => ?_
      refine .pure ⟨by rw [List.length_cons, List.length_cons, hRest'.1], ?_⟩
      exact List.forall_mem_cons.mpr ⟨by rwa [length_fill], hRest'.2⟩

/-- A row without cells has none under the cursor. -/
theorem fillEach_no_cols {row : List ScreenCell} (hLength : row.length = 0) (stop : Nat)
    (cell : ScreenCell) : fillEach 0 (stop + 1) cell row = .error .index :=
  if_neg fun hIn => absurd (hIn (Nat.succ_pos _)) (by omega)

theorem clearAbove_no_cols {cells : List (List ScreenCell)} (hCells : cells ≠ [])
    (hLength : ∀ row ∈ cells, row.length = 0) (blank : ScreenCell) (col row : Nat) :
    clearAbove blank col row cells = .error .index := by
  cases cells with
  | nil => exact absurd rfl hCells
  | cons first rest =>
    have hFirst := hLength first List.mem_cons_self
    cases row <;> rw [clearAbove, fillEach_no_cols hFirst] <;> rfl

theorem Fits.cells_ne_nil (h : s.Fits size) (hRows : size.rows ≠ 0) : s.cells ≠ [] := by
  rintro hNil
  rw [← h.rows, hNil] at hRows
  exact hRows rfl

theorem clearScreen_yields (h : s.Fits size) (mode : Nat) :
    YieldsUnless (¬ size.Safe) (s.clearScreen mode) (Fits size) := by
  unfold clearScreen
  refine .ite (fun _ => .ok h) fun hSome => ?_
  have hRows : size.rows ≠ 0 := by
    rw [← h.sized]
    exact fun hZero => hSome (.inr hZero)
  refine .ite (fun _ => ?_) fun _ => .ite (fun _ => ?_) fun _ => ?_
  · refine .ok (h.withCells ?_ (clearBelow_length h))
    rw [clearBelow, List.length_mapIdx, h.rows]
  · by_cases hCols : size.cols = 0
    · rw [clearAbove_no_cols (h.cells_ne_nil hRows) fun row hMem =>
        (h.cells row hMem).trans hCols]
      exact .inr ⟨fun hSafe => hRows (hSafe.cols hCols), _, rfl⟩
    · have hIn : s.cursorRow < s.cells.length := by
        rw [h.rows]
        exact h.cursorRow_lt hRows
      apply Yields.tolerant
      refine (clearAbove_yields (h.cursorCol_lt hCols) s.cells s.cursorRow hIn h.cells).bind
        fun cells hCells => .pure (h.withCells (hCells.1.trans h.rows) hCells.2)
  · refine .ok { h with
      rows := ?_, cells := ?_, cursorRow := Nat.zero_le _, cursorCol := Nat.zero_le _ }
    · rw [h.sized]
      exact length_blankCells size _
    · rw [h.sized]
      exact fun _ => mem_blankCells

/-- Clearing the whole screen never faults. -/
theorem clearScreen_all_yields (h : s.Fits size) :
    Yields (s.clearScreen 2) (Fits size) := by
  unfold clearScreen
  refine .ite (fun _ => .ok h) fun _ => .ok { h with
    rows := ?_, cells := ?_, cursorRow := Nat.zero_le _, cursorCol := Nat.zero_le _ }
  · rw [h.sized]
    exact length_blankCells size _
  · rw [h.sized]
    exact fun _ => mem_blankCells

theorem clearLine_no_cols (h : s.Fits size) (hCols : size.cols = 0)
    (hRows : size.rows ≠ 0) : s.clearLine 1 = .error .index := by
  obtain ⟨row, hRow, hLength⟩ := h.exists_cursorCells hRows
  have hIn := h.cursorRow_lt hRows
  unfold clearLine
  rw [if_neg]
  · unfold updateRow
    rw [← cursorCells, hRow]
    dsimp only
    rw [if_neg Nat.one_ne_zero, if_pos rfl, fillEach_no_cols (hLength.trans hCols)]
    rfl
  · rw [h.rows, h.sized, List.isEmpty_iff]
    have hNe := h.cells_ne_nil hRows
    simp only [hNe, hRows, false_or]
    omega

theorem clearLine_yields (h : s.Fits size) (mode : Nat) :
    YieldsUnless (¬ size.Safe) (s.clearLine mode) (Fits size) := by
  by_cases hNoCols : size.cols = 0 ∧ size.rows ≠ 0 ∧ mode = 1
  · obtain ⟨hCols, hRows, rfl⟩ := hNoCols
    rw [clearLine_no_cols h hCols hRows]
    exact .inr ⟨fun hSafe => hRows (hSafe.cols hCols), _, rfl⟩
  · apply Yields.tolerant
    unfold clearLine
    refine .ite (fun _ => .ok h) fun hSome => ?_
    rw [h.rows] at hSome
    have hIn : s.cursorRow < size.rows := by omega
    refine (updateRow_yields h hIn fun row _ hLength => ?_).imp fun s' hs' => hs'.1
    have hCol := h.cursorCol
    refine .ite (fun _ => ?_) fun _ => .ite (fun _ => ?_) fun _ => .ok (length_fill _ _ _ _)
    · exact ⟨_, fillEach_eq (Nat.le_refl _), length_fill _ _ _ _⟩
    · exact ⟨_, fillEach_eq (by omega), length_fill _ _ _ _⟩

/-! ## Writing -/

theorem advance_yields (h : s.Fits size) {width : Nat} (hWidth : s.cursorCol + width < 65536)
    (modes : WriteModes) : Yields (s.advance width modes) (Fits size) := by
  unfold advance
  rw [u16_eq hWidth]
  have hCols : s.size.cols = size.cols := by rw [h.sized]
  simp only [bind, Except.bind]
  split
  · exact .pure { h with cursorCol := by rw [← hCols] }
  · exact .pure { h with cursorCol := by dsimp only; omega }

theorem wrapPending_yields (h : s.Fits size) :
    Yields s.wrapPending (Fits size) := by
  unfold wrapPending
  split
  · have hLeft : ({ s with cursorCol := 0 } : ScreenBuffer).Fits size :=
      { h with cursorCol := Nat.zero_le _ }
    exact (lineFeed_yields hLeft).bind fun _ hs' => .pure { hs'.1 with }
  · exact .ok h

/-- The row with a character, or the first half of one, at the column. -/
def cellPut (col : Nat) (cell : ScreenCell) (row : List ScreenCell) : List ScreenCell :=
  (overlapCleared col row).set col cell

/-- The row with a wide character at the column and the next. -/
def widePut (col : Nat) (ch : Char) (style : TextStyle) (row : List ScreenCell) :
    List ScreenCell :=
  (cellPut col { ch, style } row).set (col + 1) { ch := WIDE_CONTINUATION, style }

@[simp] theorem length_cellPut (col : Nat) (cell : ScreenCell) (row : List ScreenCell) :
    (cellPut col cell row).length = row.length := by
  simp [cellPut]

@[simp] theorem length_widePut (col : Nat) (ch : Char) (style : TextStyle)
    (row : List ScreenCell) : (widePut col ch style row).length = row.length := by
  simp [widePut]

/-- The buffer with another row at the cursor. -/
def setCursorCells (s : ScreenBuffer) (row : List ScreenCell) : ScreenBuffer :=
  { s with cells := s.cells.set s.cursorRow row }

theorem Fits.setCursorCells (h : s.Fits size) {row : List ScreenCell}
    (hRow : row.length = size.cols) :
    (s.setCursorCells row).Fits size := by
  refine h.withCells (by rw [List.length_set, h.rows]) fun other hOther => ?_
  rcases List.mem_or_eq_of_mem_set hOther with hOld | rfl
  · exact h.cells other hOld
  · exact hRow

theorem putCell_eq {row : List ScreenCell} (hRow : s.cursorCells = some row)
    (hCol : s.cursorCol < row.length) (ch : Char) :
    s.putCell ch =
      .ok (s.setCursorCells (cellPut s.cursorCol { ch, style := s.currentStyle } row)) := by
  unfold putCell updateRow
  rw [← cursorCells, hRow]
  dsimp only
  rw [writeCell_eq hCol]
  rfl

/-- A change of the row at the cursor, after another one. -/
theorem putContinuation_setCursorCells {row old : List ScreenCell}
    (hOld : s.cursorCells = some old) (hCol : s.cursorCol + 1 < row.length) :
    (s.setCursorCells row).putContinuation =
      .ok (s.setCursorCells
        (row.set (s.cursorCol + 1) { ch := WIDE_CONTINUATION, style := s.currentStyle })) := by
  have hIn := (List.getElem?_eq_some_iff.mp hOld).1
  unfold putContinuation updateRow setCursorCells
  dsimp only
  rw [List.getElem?_set_self hIn]
  dsimp only
  rw [setCell_eq hCol]
  simp only [bind, Except.bind, pure, Except.pure, List.set_set]

theorem putWide_eq {row : List ScreenCell} (hRow : s.cursorCells = some row)
    (hCol : s.cursorCol + 1 < row.length) (ch : Char) :
    s.putWide ch = .ok (s.setCursorCells (widePut s.cursorCol ch s.currentStyle row)) := by
  rw [putWide, putCell_eq hRow (by omega)]
  exact putContinuation_setCursorCells hRow (by rwa [length_cellPut])

theorem charDisplayWidth_le (ch : Char) : charDisplayWidth ch ≤ 2 := by
  unfold charDisplayWidth
  split
  · exact Nat.zero_le _
  · split <;> decide

/-- The buffer after the first cell of a character. -/
def placed (s : ScreenBuffer) (ch : Char) (row : List ScreenCell) : ScreenBuffer :=
  { s.setCursorCells row with lastChar := some ch }

@[simp] theorem placed_size (ch : Char) (row : List ScreenCell) :
    (s.placed ch row).size = s.size := rfl

@[simp] theorem placed_cursorCol (ch : Char) (row : List ScreenCell) :
    (s.placed ch row).cursorCol = s.cursorCol := rfl

theorem putFirst_eq {row : List ScreenCell} (hRow : s.cursorCells = some row)
    (hCol : s.cursorCol < row.length) (ch : Char) :
    s.putFirst ch =
      .ok (s.placed ch (cellPut s.cursorCol { ch, style := s.currentStyle } row)) := by
  rw [putFirst, putCell_eq hRow hCol]
  rfl

theorem putContinuation_placed {row old : List ScreenCell} (hOld : s.cursorCells = some old)
    (hCol : s.cursorCol + 1 < row.length) (ch : Char) :
    (s.placed ch row).putContinuation =
      .ok (s.placed ch
        (row.set (s.cursorCol + 1) { ch := WIDE_CONTINUATION, style := s.currentStyle })) :=
  putContinuation_setCursorCells (s := { s with lastChar := some ch }) hOld hCol

theorem Fits.placed (h : s.Fits size) {row : List ScreenCell} (hRow : row.length = size.cols)
    (ch : Char) :
    (s.placed ch row).Fits size :=
  { h.setCursorCells hRow with }

theorem place_yields (h : s.Fits size) (hRows : size.rows ≠ 0) (hCols : size.cols ≠ 0) (ch : Char)
    (modes : WriteModes) : Yields (s.place ch modes) (Fits size) := by
  obtain ⟨row, hRow, hLength⟩ := h.exists_cursorCells hRows
  have hCol := h.cursorCol_lt hCols
  have hSize : s.size.cols = size.cols := by rw [h.sized]
  have hWidth := charDisplayWidth_le ch
  have hLast := size.cols_lt
  have hFirst : Yields (s.putFirst ch) (· = s.placed ch _) :=
    ⟨_, putFirst_eq hRow (by omega) ch, rfl⟩
  unfold place
  apply hFirst.bind
  intro p hp
  have hpSize : p.size = s.size := by rw [hp, placed_size]
  have hpCol : p.cursorCol = s.cursorCol := by rw [hp, placed_cursorCol]
  have hPut : p.Fits size := by
    rw [hp]
    exact h.placed (by rwa [length_cellPut]) ch
  split
  · rename_i hWide
    rw [hpSize] at hWide
    rw [u16_eq (by omega)]
    simp only [bind, Except.bind]
    split
    · split
      · -- the line feed leaves the column, where both halves then fit
        obtain ⟨s', hFeed, hFits, hZero⟩ := lineFeed_yields
          (s := { p with cursorCol := 0 }) { hPut with cursorCol := Nat.zero_le _ }
        obtain ⟨row', hRow', hLength'⟩ := hFits.exists_cursorCells hRows
        rw [hFeed]
        dsimp only at hZero ⊢
        rw [putWide_eq hRow' (by omega)]
        refine advance_yields (hFits.setCursorCells (by rwa [length_widePut])) ?_ modes
        change s'.cursorCol + charDisplayWidth ch < 65536
        omega
      · exact .pure hPut
    · rename_i hInside
      rw [hpSize, hpCol] at hInside
      rw [hp, putContinuation_placed hRow (by rw [length_cellPut]; omega)]
      refine advance_yields (h.placed (by rwa [List.length_set, length_cellPut]) ch) ?_ modes
      rw [placed_cursorCol]
      omega
  · rename_i hNarrow
    rw [hpSize] at hNarrow
    exact advance_yields hPut (by omega) modes

theorem putChar_yields (h : s.Fits size) (ch : Char) (modes : WriteModes) :
    Yields (s.putChar ch modes) (Fits size) := by
  unfold putChar
  split
  · exact .ok h
  · rename_i hSize
    rw [h.sized, not_or] at hSize
    split
    · exact .ok h
    · obtain ⟨s', hWrap, hFits⟩ := wrapPending_yields h
      have hRoom : Yields (s'.makeRoom ch modes) (Fits size) := by
        unfold makeRoom
        split
        · exact (insertBlanksAtCursor_yields hFits _).imp fun _ hs'' => hs''.1
        · exact .ok hFits
      obtain ⟨s'', hRoomed, hFits''⟩ := hRoom
      have hPlaced := place_yields hFits'' hSize.1 hSize.2 ch modes
      simpa only [hWrap, hRoomed, bind, Except.bind] using hPlaced

theorem repeatLastChar_yields (h : s.Fits size) (count : Nat) (modes : WriteModes) :
    Yields (s.repeatLastChar count modes) (Fits size) := by
  unfold repeatLastChar
  cases s.lastChar with
  | none => exact .ok h
  | some ch => exact Yields.repeatM (fun s' hs' => putChar_yields hs' ch modes) count s h

end ScreenBuffer

end WaitAgent.Terminal
