import WaitAgent.Terminal.WellFormed

/-!
# Line feeds, reverse indexes and the scroll region

At the last row of the region a line feed scrolls the region up, and at its first row a reverse
index scrolls it down; all rows outside stay.  Both compare with one inequality for the margin and
for the rows beyond it.  So a line feed below the region scrolls it too and takes the cursor back
up into it, and a reverse index above the region does the like: the region is respected exactly
by a cursor that is not beyond it.
-/

namespace WaitAgent.Terminal

open Verified

/-! ## One row goes, and one comes -/

theorem getElem?_rowUp (cells : List (List ScreenCell)) (row : List ScreenCell) {top bottom : Nat}
    (hRegion : top ≤ bottom) (hBottom : bottom < cells.length) (i : Nat) :
    ((cells.eraseIdx top).insertIdx bottom row)[i]? =
      if top ≤ i ∧ i < bottom then cells[i + 1]?
      else if i = bottom then some row else cells[i]? := by
  have hLength : (cells.eraseIdx top).length = cells.length - 1 :=
    List.length_eraseIdx_of_lt (by omega)
  rw [List.getElem?_insertIdx, List.getElem?_eraseIdx, List.getElem?_eraseIdx, hLength]
  -- the cases in which the two sides differ contradict the bounds
  split_ifs <;> first | omega | rfl | exact congrArg (cells[·]?) (by omega)

theorem getElem?_rowDown (cells : List (List ScreenCell)) (row : List ScreenCell)
    {top bottom : Nat} (hRegion : top ≤ bottom) (hBottom : bottom < cells.length) (i : Nat) :
    ((cells.eraseIdx bottom).insertIdx top row)[i]? =
      if top < i ∧ i ≤ bottom then cells[i - 1]?
      else if i = top then some row else cells[i]? := by
  have hLength : (cells.eraseIdx bottom).length = cells.length - 1 :=
    List.length_eraseIdx_of_lt (by omega)
  rw [List.getElem?_insertIdx, List.getElem?_eraseIdx, List.getElem?_eraseIdx, hLength]
  split_ifs <;> first | omega | rfl | exact congrArg (cells[·]?) (by omega)

namespace ScreenBuffer

variable {size : TerminalSize} {s s' : ScreenBuffer}

/-! ## What the region is owed -/

/-- The region scrolled up by one row, and every row outside it is as before. -/
def ScrolledUp (s s' : ScreenBuffer) : Prop :=
  s'.cells.length = s.cells.length ∧ ∀ i < s.cells.length, s'.cells[i]? =
    if s.scrollTop ≤ i ∧ i < s.scrollBottom then s.cells[i + 1]?
    else if i = s.scrollBottom then some s.blankRow else s.cells[i]?

/-- The region scrolled down by one row, and every row outside it is as before. -/
def ScrolledDown (s s' : ScreenBuffer) : Prop :=
  s'.cells.length = s.cells.length ∧ ∀ i < s.cells.length, s'.cells[i]? =
    if s.scrollTop < i ∧ i ≤ s.scrollBottom then s.cells[i - 1]?
    else if i = s.scrollTop then some s.blankRow else s.cells[i]?

def RegionKept (s s' : ScreenBuffer) : Prop :=
  ∀ i, s.scrollTop ≤ i → i ≤ s.scrollBottom → s'.cells[i]? = s.cells[i]?

/-- A line feed from `s` to `s'` leaves the region alone if it comes from below, and scrolls
exactly the region if it comes from its last row. -/
def LineFeedRespects (s s' : ScreenBuffer) : Prop :=
  (s.scrollBottom < s.cursorRow → s.RegionKept s' ∧ s.cursorRow ≤ s'.cursorRow) ∧
    (s.cursorRow = s.scrollBottom → s.ScrolledUp s')

/-- The same for a reverse index, from above and from the first row. -/
def ReverseIndexRespects (s s' : ScreenBuffer) : Prop :=
  (s.cursorRow < s.scrollTop → s.RegionKept s' ∧ s'.cursorRow ≤ s.cursorRow) ∧
    (s.cursorRow = s.scrollTop → s.ScrolledDown s')

/-! ## Scrolling by one row -/

/-- With a row on the screen, the region is inside it. -/
theorem Fits.region_inside (h : s.Fits size) (hRows : size.rows ≠ 0) :
    ¬ (s.cells.isEmpty ∨ s.size.rows = 0) ∧ s.scrollTop < s.cells.length ∧
      s.scrollBottom < s.cells.length := by
  have hLength := h.rows
  have hBottom := h.bottom
  have hRegion := h.region
  rw [h.sized, List.isEmpty_iff, ← List.length_eq_zero_iff]
  omega

/-- Scrolling by one row is one turn of the loop. -/
theorem scrollUpInRegion_one (h : s.Fits size) (hRows : size.rows ≠ 0) :
    Yields (s.scrollUpInRegion 1) fun s' =>
      s.ScrolledUp s' ∧ s'.scrollBottom = s.scrollBottom := by
  obtain ⟨hCells, hTop, hBottom⟩ := h.region_inside hRows
  have hRegion := h.region
  have hOne : min 1 (s.scrollBottom - s.scrollTop + 1) = 1 := by omega
  unfold scrollUpInRegion
  dsimp only
  rw [if_neg hCells, if_neg (by omega), hOne, repeatM_one, scrollUpOnce,
    replaceRow_eq hTop hBottom]
  refine .pure ⟨⟨length_replaced s.blankRow hTop hBottom,
    fun i _ => getElem?_rowUp s.cells s.blankRow hRegion hBottom i⟩, ?_⟩
  dsimp only
  split
  · rw [pushScrollback]
  · rfl

theorem scrollDownInRegion_one (h : s.Fits size) (hRows : size.rows ≠ 0) :
    Yields (s.scrollDownInRegion 1) fun s' =>
      s.ScrolledDown s' ∧ s'.scrollTop = s.scrollTop := by
  obtain ⟨hCells, hTop, hBottom⟩ := h.region_inside hRows
  have hRegion := h.region
  have hOne : min 1 (s.scrollBottom - s.scrollTop + 1) = 1 := by omega
  unfold scrollDownInRegion
  dsimp only
  rw [if_neg hCells, if_neg (by omega), hOne, repeatM_one, shiftRow, replaceRow_eq hBottom hTop]
  exact .pure ⟨⟨length_replaced s.blankRow hBottom hTop,
    fun i _ => getElem?_rowDown s.cells s.blankRow hRegion hBottom i⟩, rfl⟩

/-! ## The two operations -/

/-- A line feed respects the region exactly if the cursor is not below it. -/
theorem lineFeed_respects_iff (h : s.Fits size) :
    Yields s.lineFeed fun s' => s.LineFeedRespects s' ↔ s.cursorRow ≤ s.scrollBottom := by
  have hLength := h.rows
  have hRow := h.cursorRow
  have hBottom := h.bottom
  unfold lineFeed
  by_cases hRows : size.rows = 0
  · -- no rows: nothing happens, and the cursor is on row 0
    rw [if_pos (by rw [h.sized]; exact hRows)]
    refine .ok ⟨fun _ => by omega, fun _ => ⟨fun hBelow => by omega, fun _ => ⟨rfl, ?_⟩⟩⟩
    intro i hi
    omega
  · rw [if_neg (by rw [h.sized]; exact hRows)]
    dsimp only
    by_cases hMargin : s.cursorRow ≥ s.scrollBottom
    · rw [if_pos hMargin]
      have hQuiet : ({ s with pendingWrap := false } : ScreenBuffer).Fits size := { h with }
      refine (scrollUpInRegion_one hQuiet hRows).bind fun s' hs' => .pure ?_
      obtain ⟨hScrolled, hSame⟩ := hs'
      constructor
      · intro hRespects
        by_contra hBelow
        have hDown : s.cursorRow ≤ s'.scrollBottom := (hRespects.1 (by omega)).2
        rw [hSame] at hDown
        exact hBelow hDown
      · exact fun hNotBelow => ⟨fun hBelow => by omega, fun _ => hScrolled⟩
    · rw [if_neg hMargin, u16_eq (by have := size.rows_lt; omega)]
      refine .ok ⟨fun _ => by omega, fun _ => ⟨fun hBelow => by omega, fun hAt => by omega⟩⟩

/-- A reverse index respects the region exactly if the cursor is not above it. -/
theorem reverseIndex_respects_iff (h : s.Fits size) :
    Yields s.reverseIndex fun s' => s.ReverseIndexRespects s' ↔ s.scrollTop ≤ s.cursorRow := by
  have hLength := h.rows
  have hRegion := h.region
  have hBottom := h.bottom
  unfold reverseIndex
  by_cases hRows : size.rows = 0
  · rw [if_pos (by rw [h.sized]; exact hRows)]
    refine .ok ⟨fun _ => by omega, fun _ => ⟨fun hAbove => by omega, fun _ => ⟨rfl, ?_⟩⟩⟩
    intro i hi
    omega
  · rw [if_neg (by rw [h.sized]; exact hRows)]
    dsimp only
    by_cases hMargin : s.cursorRow ≤ s.scrollTop
    · rw [if_pos hMargin]
      have hQuiet : ({ s with pendingWrap := false } : ScreenBuffer).Fits size := { h with }
      refine (scrollDownInRegion_one hQuiet hRows).bind fun s' hs' => .pure ?_
      obtain ⟨hScrolled, hSame⟩ := hs'
      constructor
      · intro hRespects
        by_contra hAbove
        have hUp : s'.scrollTop ≤ s.cursorRow := (hRespects.1 (by omega)).2
        rw [hSame] at hUp
        exact hAbove hUp
      · exact fun hNotAbove => ⟨fun hAbove => by omega, fun _ => hScrolled⟩
    · rw [if_neg hMargin]
      refine .ok ⟨fun _ => by omega, fun _ => ⟨fun hAbove => by omega, fun hAt => by omega⟩⟩

end ScreenBuffer

/-! ## Reachable screens -/

/-- Steps that do not fault keep the grids, whatever the sizes. -/
theorem isGrid_of_steps (es : List EngineStep) :
    ∀ (size : TerminalSize) (t t' : TerminalEngine), t.IsGrid size → t.steps es = .ok t' →
      t'.IsGrid (sizeAfter size es) := by
  induction es with
  | nil =>
    intro size t t' h hRun
    cases hRun
    exact h
  | cons e es ih =>
    intro size t t' h hRun
    rw [TerminalEngine.steps, List.foldlM_cons] at hRun
    cases e with
    | feed bytes =>
      have hFeed := feed_yields h bytes
      rcases hFeed with ⟨r, hFed, hGrid⟩ | ⟨-, fault, hFault⟩
      · rw [TerminalEngine.step, hFed] at hRun
        exact ih size r.1 t' hGrid hRun
      · rw [TerminalEngine.step, hFault] at hRun
        cases hRun
    | resize size' =>
      have hGrid : (t.resize size').IsGrid size' :=
        ⟨h.normal.resize, h.alternate.resize⟩
      exact ih size' _ t' hGrid hRun

/-- On every reachable screen, a line feed respects the scroll region exactly if the cursor is not
below it, and a reverse index exactly if the cursor is not above it. -/
theorem line_movement_respects_region (size : TerminalSize) (es : List EngineStep)
    (t : TerminalEngine) (hRun : (TerminalEngine.new size).steps es = .ok t) :
    let s := t.activeBuffer
    Yields s.lineFeed (fun s' => s.LineFeedRespects s' ↔ s.cursorRow ≤ s.scrollBottom) ∧
      Yields s.reverseIndex fun s' => s.ReverseIndexRespects s' ↔ s.scrollTop ≤ s.cursorRow := by
  have hGrid := isGrid_of_steps es size _ t (TerminalEngine.new_isGrid size) hRun
  have hFits := Display.Fits.activeBuffer hGrid
  exact ⟨ScreenBuffer.lineFeed_respects_iff hFits, ScreenBuffer.reverseIndex_respects_iff hFits⟩

/-- An `a` in the first of three rows, the region of the first two, and the cursor to a row. -/
def regionInput (row : UInt8) : List EngineStep :=
  [.feed ([0x61, 0x1b, 0x5b, 0x31, 0x3b, 0x32, 0x72, 0x1b, 0x5b] ++ row :: [0x3b, 0x31, 0x48])]

/-- The screen after the steps, if they do not fault. -/
def screenAfter (es : List EngineStep) : Except Fault ScreenBuffer :=
  ((TerminalEngine.new { rows := 3, cols := 1 }).steps es).map (·.activeBuffer)

/-- The cursor in the last row of the region. -/
theorem line_feed_at_margin_respects :
    ∃ s s', screenAfter (regionInput 0x32) = .ok s ∧ s.cursorRow = s.scrollBottom ∧
      s.lineFeed = .ok s' ∧ s.ScrolledUp s' := by
  have hScreen : (screenAfter (regionInput 0x32)).map (fun s => (s.cursorRow, s.scrollBottom)) =
      .ok (1, 1) := by decide +kernel
  cases hRun : (TerminalEngine.new { rows := 3, cols := 1 }).steps (regionInput 0x32) with
  | error fault =>
    rw [screenAfter, hRun] at hScreen
    cases hScreen
  | ok t =>
    rw [screenAfter, hRun] at hScreen
    have hPlace : (t.activeBuffer.cursorRow, t.activeBuffer.scrollBottom) = (1, 1) :=
      Except.ok.inj hScreen
    have hRow : t.activeBuffer.cursorRow = 1 := congrArg Prod.fst hPlace
    have hBottom : t.activeBuffer.scrollBottom = 1 := congrArg Prod.snd hPlace
    obtain ⟨s', hFeed, hIff⟩ := (line_movement_respects_region _ _ t hRun).1
    refine ⟨t.activeBuffer, s', by rw [screenAfter, hRun]; rfl, by omega, hFeed, ?_⟩
    exact (hIff.mpr (by omega)).2 (by omega)

/-- The cursor below the region: the line feed scrolls it, the `a` is gone, and the cursor moves
up. -/
theorem line_feed_below_scrolls_region :
    ∃ s s', screenAfter (regionInput 0x33) = .ok s ∧ s.scrollBottom < s.cursorRow ∧
      s.lineFeed = .ok s' ∧ ¬ s.RegionKept s' ∧ s'.cursorRow < s.cursorRow := by
  have hScreen : (do
      let s ← screenAfter (regionInput 0x33)
      let s' ← s.lineFeed
      return ((s.scrollTop, s.scrollBottom, s.cursorRow, s'.cursorRow),
        s.cells[0]? == s'.cells[0]?)) = Except.ok ((0, 1, 2, 1), false) := by
    decide +kernel
  cases hRun : screenAfter (regionInput 0x33) with
  | error fault =>
    rw [hRun] at hScreen
    cases hScreen
  | ok s =>
    cases hFeed : s.lineFeed with
    | error fault =>
      rw [hRun] at hScreen
      change (do let s' ← s.lineFeed; _) = _ at hScreen
      rw [hFeed] at hScreen
      cases hScreen
    | ok s' =>
      rw [hRun] at hScreen
      change (do let s' ← s.lineFeed; _) = _ at hScreen
      rw [hFeed] at hScreen
      have hValues := Except.ok.inj hScreen
      simp only [Prod.mk.injEq] at hValues
      obtain ⟨⟨hTop, hBottom, hRow, hRow'⟩, hFirst⟩ := hValues
      refine ⟨s, s', rfl, by omega, hFeed, fun hKept => ?_, by omega⟩
      rw [hKept 0 (by omega) (by omega)] at hFirst
      simp at hFirst

end WaitAgent.Terminal
