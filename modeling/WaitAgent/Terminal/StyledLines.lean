import WaitAgent.Terminal.Styles
import WaitAgent.Terminal.WellFormed

/-!
# Styled lines on their way to a client

The server renders a row as one text for each run of a style, with escape
sequences between them, and the client splits the line into spans again.  Each reads
the sequences with a loop of its own; both read back what `to_ansi` writes.
-/

namespace WaitAgent.Terminal

open Verified

/-! ## Sequences -/

/-- The action of a control sequence. -/
def csiAction (params : String) (finalByte : Char) : Action :=
  .csi (bytesOf params) (UInt8.ofNat finalByte.toNat)

/-- The action of the sequence that selects a style. -/
def sgrAction (style : TextStyle) : Action :=
  csiAction style.ansiText 'm'

/-! ## Texts -/

/-- The text of the cells that are not second halves, with the style that is
selected before them. -/
def styledText (active : TextStyle) : List ScreenCell → String
  | [] => if active ≠ .default then "\x1b[0m" else ""
  | cell :: cells =>
      (if cell.style ≠ active then cell.style.toAnsi else "") ++ String.singleton cell.ch
        ++ styledText cell.style cells

theorem foldl_renderStyledCell (cells : List ScreenCell) :
    ∀ (rendered : String) (active : TextStyle),
      (let (text, last) := cells.foldl renderStyledCell (rendered, active)
        if last ≠ .default then text ++ "\x1b[0m" else text) =
        rendered ++ styledText active cells := by
  induction cells with
  | nil =>
    intro rendered active
    change (if active ≠ .default then rendered ++ "\x1b[0m" else rendered) = _
    rw [styledText]
    split
    · rfl
    · rw [String.append_empty]
  | cons cell cells ih =>
    intro rendered active
    rw [List.foldl_cons]
    by_cases hStyle : cell.style = active
    · have hCell : renderStyledCell (rendered, active) cell =
          (rendered ++ String.singleton cell.ch, cell.style) := by
        rw [renderStyledCell, if_neg (not_not_intro hStyle), hStyle]
      rw [hCell, ih, styledText, if_neg (not_not_intro hStyle), String.empty_append,
        String.append_assoc]
    · have hCell : renderStyledCell (rendered, active) cell =
          (rendered ++ cell.style.toAnsi ++ String.singleton cell.ch, cell.style) := by
        rw [renderStyledCell, if_pos hStyle]
      rw [hCell, ih, styledText, if_pos hStyle]
      simp only [String.append_assoc]

/-- The cells of a row that are written. -/
def writtenCells (row : List ScreenCell) : List ScreenCell :=
  row.filter fun cell => cell.ch ≠ WIDE_CONTINUATION

theorem renderStyledRow_eq (row : List ScreenCell) :
    renderStyledRow row = styledText .default (writtenCells row) := by
  have hFold := foldl_renderStyledCell (writtenCells row) "" .default
  rw [String.empty_append] at hFold
  exact hFold

/-! ## Spans -/

/-- The characters of spans, each with the style of its span. -/
def styledChars (spans : List (String × TextStyle)) : List (Char × TextStyle) :=
  spans.flatMap fun (text, style) => text.toList.map fun ch => (ch, style)

/-- The characters that were read. -/
def StyledSpans.chars (p : StyledSpans) : List (Char × TextStyle) :=
  styledChars p.spans ++ p.currentText.toList.map fun ch => (ch, p.style)

theorem StyledSpans.chars_flush (p : StyledSpans) :
    styledChars (flushStyledSpan p).spans = p.chars := by
  unfold flushStyledSpan StyledSpans.chars
  by_cases hText : p.currentText = ""
  · rw [if_neg (not_not_intro hText), hText]
    simp
  · rw [if_pos hText]
    simp [styledChars]

theorem StyledSpans.chars_push (p : StyledSpans) (ch : Char) :
    StyledSpans.chars { p with currentText := p.currentText.push ch } =
      p.chars ++ [(ch, p.style)] := by
  simp [StyledSpans.chars]

/-- Another style is for the characters to come. -/
theorem StyledSpans.chars_select (p : StyledSpans) (params : List Char) :
    (p.select params).chars = p.chars ∧
      (p.select params).style =
        applySgrSegments p.style (parseSgrSegments (String.ofList params)) := by
  unfold StyledSpans.select
  by_cases hSame : applySgrSegments p.style (parseSgrSegments (String.ofList params)) = p.style
  · dsimp only
    rw [if_neg (not_not_intro hSame)]
    exact ⟨rfl, hSame.symm⟩
  · have hText : (flushStyledSpan p).currentText = "" := by
      unfold flushStyledSpan
      split
      · rfl
      · exact not_not.mp ‹_›
    dsimp only
    rw [if_pos hSame]
    refine ⟨?_, rfl⟩
    rw [← p.chars_flush, StyledSpans.chars, hText]
    simp

/-! ## Reading -/

theorem parseStyledChars_char {ch : Char} (h : ch ≠ '\x1b') (p : StyledSpans) (rest : List Char) :
    parseStyledChars p (ch :: rest) =
      parseStyledChars { p with currentText := p.currentText.push ch } rest := by
  rw [parseStyledChars, if_pos h]

theorem scanStyleParams_append {params : List Char} (h : ∀ c ∈ params, c.isAlpha = false)
    {letter : Char} (hLetter : letter.isAlpha = true) (rest : List Char) :
    scanStyleParams (params ++ letter :: rest) = (params, some letter, rest) := by
  induction params with
  | nil => rw [List.nil_append, scanStyleParams, if_pos hLetter]
  | cons c params ih =>
    have hChar := h c List.mem_cons_self
    rw [List.cons_append, scanStyleParams, if_neg (by rw [hChar]; decide),
      ih fun c' hc' => h c' (List.mem_cons_of_mem c hc')]

/-- The parameters of a style have no letters. -/
theorem TextStyle.isAlpha_ansiText (style : TextStyle) :
    ∀ c ∈ style.ansiText.toList, c.isAlpha = false := by
  intro c hc
  rcases mem_params style.isDigit_ansiParams hc with rfl | hDigit
  · decide
  · simp only [Char.isDigit, Bool.and_eq_true, decide_eq_true_eq] at hDigit
    have hLe : c.val ≤ 57 := hDigit.2
    show (decide (c.val ≥ 65 ∧ c.val ≤ 90) ||
      (decide (c.val ≥ 97) && decide (c.val ≤ 122))) = false
    rw [Bool.or_eq_false_iff]
    constructor
    · grind
    · grind

/-- A sequence that selects a style, and what comes after it. -/
theorem parseStyledChars_toAnsi (p : StyledSpans) (style : TextStyle) (rest : List Char) :
    parseStyledChars p (style.toAnsi.toList ++ rest) =
      parseStyledChars (p.select style.ansiText.toList) rest := by
  have hScan := scanStyleParams_append style.isAlpha_ansiText (show ('m').isAlpha = true by decide)
    rest
  have hText : style.toAnsi.toList ++ rest =
      '\x1b' :: '[' :: (style.ansiText.toList ++ 'm' :: rest) := by
    rw [style.toAnsi_eq, csiText]
    simp
  rw [hText, parseStyledChars, if_neg (by decide), List.head?_cons, if_neg (by decide),
    List.tail_cons, hScan]
  dsimp only
  rw [if_pos rfl]

/-- The text of cells is read as their characters, in the style of each. -/
theorem chars_styledText (cells : List ScreenCell) :
    ∀ (p : StyledSpans), (∀ cell ∈ cells, cell.ch ≠ '\x1b') →
      (parseStyledChars p (styledText p.style cells).toList).chars =
        p.chars ++ cells.map fun cell => (cell.ch, cell.style) := by
  induction cells with
  | nil =>
    intro p _
    rw [styledText, List.map_nil, List.append_nil]
    split
    · have hReset := parseStyledChars_toAnsi p .default []
      rw [List.append_nil] at hReset
      change (parseStyledChars p (TextStyle.default.toAnsi).toList).chars = _
      rw [hReset, parseStyledChars]
      exact (p.chars_select _).1
    · rw [String.toList_empty, parseStyledChars]
  | cons cell cells ih =>
    intro p hCells
    have hCell := hCells cell List.mem_cons_self
    have hRest := fun c hc => hCells c (List.mem_cons_of_mem cell hc)
    -- the character is read in its own style
    have hChar : ∀ q : StyledSpans, q.style = cell.style → q.chars = p.chars →
        (parseStyledChars q (cell.ch :: (styledText cell.style cells).toList)).chars =
          p.chars ++ (cell :: cells).map fun cell => (cell.ch, cell.style) := by
      intro q hStyle hChars
      have hPushed := ih { q with currentText := q.currentText.push cell.ch } hRest
      rw [q.chars_push, hChars, hStyle, List.append_assoc] at hPushed
      rw [parseStyledChars_char hCell, hStyle]
      exact hPushed
    rw [styledText, String.toList_append, String.toList_append, String.toList_singleton,
      List.append_assoc, List.singleton_append]
    by_cases hStyle : cell.style = p.style
    · rw [if_neg (not_not_intro hStyle), String.toList_empty, List.nil_append]
      exact hChar p hStyle.symm rfl
    · rw [if_pos hStyle, parseStyledChars_toAnsi]
      obtain ⟨hSame, hSelected⟩ := p.chars_select cell.style.ansiText.toList
      refine hChar _ ?_ hSame
      rw [hSelected, String.ofList_toList, applySgrSegments_ansiText]

/-! ## Both readers -/

/-- Feeding the sequence of a style selects it on the active screen. -/
theorem feed_toAnsi {t : TerminalEngine} (hEscape : t.pendingEscape = [])
    (hIdle : t.synchronizedUpdate = false) (style : TextStyle) :
    t.feedAndCollectReplies (bytesOf style.toAnsi) =
      .ok ((t.toDisplay.setActiveBuffer
        { t.toDisplay.activeBuffer with currentStyle := style }).withParser t.parser, []) := by
  have hPublic := stripPrefix_params style.isDigit_ansiParams
  have hParse : t.parser.feed (bytesOf style.toAnsi) = (t.parser, [sgrAction style]) := by
    rw [style.toAnsi_eq]
    exact Parser.feed_csiText hEscape hIdle (isParams_intercalate style.isDigit_ansiParams)
      (by decide) (synchronized_public hPublic _ _)
  have hAct : t.toDisplay.act (sgrAction style) = t.toDisplay.handleCsi style.ansiText 'm' :=
    act_csi_public t.toDisplay style.ansiText 'm' hPublic (by decide)
  have hSelect : t.toDisplay.handleCsi style.ansiText 'm' =
      .ok (t.toDisplay.setActiveBuffer
        (t.toDisplay.activeBuffer.applySgr (parseSgrSegments style.ansiText)), []) := rfl
  rw [feed_eq, hParse, Display.perform, hAct, hSelect, applySgr_ansiText, collect_ok_nil]
  rfl

/-- What `render_styled_row` writes is read back by a client, character by
character, and what `to_ansi` writes by the engine, whatever was selected. -/
theorem styles_read_back {row : List ScreenCell} (hRow : ∀ cell ∈ row, cell.ch ≠ '\x1b')
    {t : TerminalEngine} (hEscape : t.pendingEscape = []) (hIdle : t.synchronizedUpdate = false)
    (style : TextStyle) :
    styledChars (parseAnsiStyledLine (renderStyledRow row)) =
        (row.filter fun cell => cell.ch ≠ WIDE_CONTINUATION).map
          (fun cell => (cell.ch, cell.style)) ∧
      Yields (t.feedAndCollectReplies (bytesOf style.toAnsi))
        fun (t', _) => t'.activeBuffer.currentStyle = style := by
  constructor
  · have hWritten : ∀ cell ∈ writtenCells row, cell.ch ≠ '\x1b' :=
      fun cell hCell => hRow cell (List.mem_of_mem_filter hCell)
    rw [parseAnsiStyledLine, StyledSpans.chars_flush, renderStyledRow_eq]
    exact chars_styledText (writtenCells row) {} hWritten
  · rw [feed_toAnsi hEscape hIdle]
    refine .ok ?_
    change (Display.activeBuffer (Display.setActiveBuffer _ _)).currentStyle = style
    rw [Display.activeBuffer_setActiveBuffer]

/-- A row with two styles and a wide character, and an engine in its first
state. -/
theorem styles_read_back_wide :
    let row : List ScreenCell :=
      [{ ch := 'a', style := .default }, { ch := '你', style := { bold := true } },
        { ch := WIDE_CONTINUATION, style := { bold := true } }]
    let style : TextStyle := { foreground := some (.rgb 1 2 3) }
    styledChars (parseAnsiStyledLine (renderStyledRow row)) =
        [('a', .default), ('你', { bold := true })] ∧
      Yields ((TerminalEngine.new { rows := 2, cols := 2 }).feedAndCollectReplies
        (bytesOf style.toAnsi)) fun (t', _) => t'.activeBuffer.currentStyle = style := by
  refine styles_read_back ?_ rfl rfl _
  simp [WIDE_CONTINUATION]

end WaitAgent.Terminal
