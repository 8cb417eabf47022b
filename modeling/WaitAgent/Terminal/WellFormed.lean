import WaitAgent.Terminal.Fits
import WaitAgent.Terminal.Trace

/-!
# Well-formed terminals

Whatever an engine is fed and however it is resized, both of its screen buffers
fit their size and no operation faults.  The actions of the parser are taken one
by one: `Display.act_yields` says what each of them keeps.
-/

namespace WaitAgent.Terminal

open Verified

namespace Display

/-- Both buffers fit the size. -/
structure Fits (size : TerminalSize) (d : Display) : Prop where
  normal : d.normal.Fits size
  alternate : d.alternate.Fits size

variable {size : TerminalSize} {d : Display}

theorem activeBuffer_setActiveBuffer (d : Display) (s : ScreenBuffer) :
    (d.setActiveBuffer s).activeBuffer = s := by
  unfold Display.setActiveBuffer
  split
  · rename_i hAlternate
    simp [Display.activeBuffer, hAlternate]
  · rename_i hNormal
    simp [Display.activeBuffer, hNormal]

/-- A change of the display, as an action without replies. -/
theorem quiet_yields {x : Except Fault Display} (hx : Yields x (Fits size)) :
    Yields (x.map fun d => ((d, []) : Display × List UInt8)) fun r => r.1.Fits size :=
  Yields.map hx

section

variable (h : d.Fits size)

include h

theorem Fits.activeBuffer : d.activeBuffer.Fits size := by
  unfold Display.activeBuffer
  split
  · exact h.alternate
  · exact h.normal

theorem Fits.setActiveBuffer {s : ScreenBuffer} (hs : s.Fits size) :
    (d.setActiveBuffer s).Fits size := by
  unfold Display.setActiveBuffer
  split
  · exact ⟨h.normal, hs⟩
  · exact ⟨hs, h.alternate⟩

theorem onActive_yields {f : ScreenBuffer → Except Fault ScreenBuffer}
    (hf : Yields (f d.activeBuffer) (ScreenBuffer.Fits size)) :
    Yields (d.onActive f) (Fits size) :=
  hf.bind fun _ hs => .pure (h.setActiveBuffer hs)

theorem change_yields (f : ScreenBuffer → Except Fault ScreenBuffer)
    (hf : Yields (f d.activeBuffer) (ScreenBuffer.Fits size)) :
    YieldsUnless (¬ size.Safe) ((d.onActive f).map fun d => ((d, []) : Display × List UInt8))
      fun r => r.1.Fits size :=
  (quiet_yields (onActive_yields h hf)).tolerant

/-- The same for an operation that faults on some sizes. -/
theorem risky_yields (f : ScreenBuffer → Except Fault ScreenBuffer)
    (hf : YieldsUnless (¬ size.Safe) (f d.activeBuffer) (ScreenBuffer.Fits size)) :
    YieldsUnless (¬ size.Safe) ((d.onActive f).map fun d => ((d, []) : Display × List UInt8))
      fun r => r.1.Fits size :=
  YieldsUnless.map (hf.bind fun _ hs => (Yields.pure (h.setActiveBuffer hs)).tolerant)

theorem move_yields (f : ScreenBuffer → ScreenBuffer)
    (hf : (f d.activeBuffer).Fits size) :
    YieldsUnless (¬ size.Safe)
      ((d.onActive fun s => .ok (f s)).map fun d => ((d, []) : Display × List UInt8))
      fun r => r.1.Fits size :=
  change_yields h (fun s => .ok (f s)) (.ok hf)

theorem Fits.saveCursor : d.saveCursor.Fits size :=
  { h.setActiveBuffer h.activeBuffer.saveCursor with }

theorem Fits.restoreCursor : d.restoreCursor.Fits size :=
  { h.setActiveBuffer h.activeBuffer.restoreCursor with }

theorem Fits.handlePublicMode (numbers : List Nat) (finalByte : Char) :
    (d.handlePublicMode numbers finalByte).Fits size := by
  unfold Display.handlePublicMode
  induction numbers generalizing d with
  | nil => exact h
  | cons mode numbers ih =>
    rw [List.foldl_cons]
    split
    · exact ih { h with }
    · exact ih h

theorem Fits.handleOsc (payload : List UInt8) : (d.handleOsc payload).1.Fits size := by
  unfold Display.handleOsc
  dsimp only
  split
  · exact h
  · split
    · exact { h with }
    · split
      · exact { h with }
      · split
        · split
          · exact h
          · split <;> exact h
        · exact h

theorem Fits.designateCharset (g0 : Bool) (code : UInt8) :
    (d.designateCharset g0 code).Fits size := by
  unfold Display.designateCharset
  dsimp only
  split <;> exact { h with }

end

theorem setAlternateScreen_yields (h : d.Fits size) (active : Bool)
    (mode : Nat) : Yields (d.setAlternateScreen active mode) (Fits size) := by
  unfold setAlternateScreen
  split
  · exact .ok h
  · split
    · dsimp only
      split
      · exact .ok { h.saveCursor with }
      · exact .ok { h with }
    · have hLeft : ({ d with alternateScreenActive := false } : Display).Fits size := { h with }
      have hRestored : (if mode = 1048 ∨ mode = 1049 then
          restoreCursor { d with alternateScreenActive := false }
          else { d with alternateScreenActive := false }).Fits size := by
        split
        · exact hLeft.restoreCursor
        · exact hLeft
      dsimp only
      split
      · exact (ScreenBuffer.clearScreen_all_yields hRestored.alternate).bind fun _ hs =>
          .pure { hRestored with alternate := hs }
      · exact .pure hRestored

theorem setPrivateMode_yields (h : d.Fits size) (mode : Nat)
    (enabled : Bool) : Yields (d.setPrivateMode mode enabled) (Fits size) := by
  -- all the modes but those of the alternate screen are flags of the display
  unfold setPrivateMode
  iterate 4 refine .ite (fun _ => .ok { h with }) fun _ => ?_
  refine .ite (fun _ => setAlternateScreen_yields h enabled mode) fun _ => ?_
  iterate 6 refine .ite (fun _ => .ok { h with }) fun _ => ?_
  exact .ok h

theorem handleCsi_yields (h : d.Fits size) (params : String) (finalByte : Char) :
    YieldsUnless (¬ size.Safe) (d.handleCsi params finalByte) fun r => r.1.Fits size := by
  have hActive := h.activeBuffer
  unfold handleCsi
  dsimp only
  -- one case for each final byte, in the order of the source
  split
  · exact move_yields h _ (hActive.moveCursorRelative _ _)
  · exact move_yields h _ (hActive.moveCursorRelative _ _)
  · exact move_yields h _ (hActive.moveCursorRelative _ _)
  · exact move_yields h _ (hActive.moveCursorRelative _ _)
  · exact move_yields h _ (hActive.moveCursorRelative _ _).carriageReturn
  · exact move_yields h _ (hActive.moveCursorRelative _ _).carriageReturn
  · exact move_yields h _ (hActive.moveCursorCol _)
  · exact move_yields h _ (hActive.moveCursorCol _)
  · exact move_yields h _ (hActive.moveCursorRow _ _)
  · exact move_yields h _ (hActive.moveCursorTo _ _ _)
  · exact move_yields h _ (hActive.moveCursorTo _ _ _)
  · exact risky_yields h _ (ScreenBuffer.clearScreen_yields hActive _)
  · exact risky_yields h _ (ScreenBuffer.clearLine_yields hActive _)
  · exact change_yields h _ (ScreenBuffer.insertLines_yields hActive _)
  · exact change_yields h _ (ScreenBuffer.deleteLines_yields hActive _)
  · exact change_yields h _ (ScreenBuffer.deleteChars_yields hActive _)
  · exact change_yields h _ (ScreenBuffer.insertChars_yields hActive _)
  · exact change_yields h _ (ScreenBuffer.eraseChars_yields hActive _)
  · exact change_yields h _ (ScreenBuffer.repeatLastChar_yields hActive _ _)
  · exact change_yields h _
      ((ScreenBuffer.scrollUpInRegion_yields hActive _).imp fun _ hs => hs.1)
  · refine .ite (fun _ => .ok h) fun _ => ?_
    exact change_yields h _ (ScreenBuffer.scrollDownInRegion_yields hActive _)
  · refine .ite (fun _ => ?_) fun _ => ?_
    · exact move_yields h _ (hActive.resetScrollRegion _)
    · exact move_yields h _ (hActive.setScrollRegion _ _ _)
  · exact .ite (fun _ => .ok h) fun _ => .ok h
  · exact .ite (fun _ => .ok h) fun _ => .ok h
  · exact move_yields h _ (hActive.applySgr _)
  · exact .ite (fun _ => .ok h.saveCursor) fun _ => .ok h
  · exact .ite (fun _ => .ok h.restoreCursor) fun _ => .ok h
  · exact .ok (h.handlePublicMode _ _)
  · exact .ok (h.handlePublicMode _ _)
  · exact .ok h

theorem control_yields (h : d.Fits size) (params : List UInt8) (finalByte : Char) :
    YieldsUnless (¬ size.Safe) (d.control params finalByte) fun r => r.1.Fits size := by
  unfold control
  dsimp only
  cases stripPrefix "?" (fromUtf8Lossy params) with
  | none => exact handleCsi_yields h _ _
  | some privateParams =>
    have hModes : Yields ((parseCsiNumbers privateParams).foldlM
        (fun (d : Display) mode => d.setPrivateMode mode (finalByte == 'h')) d) (Fits size) :=
      Yields.foldlM _ d (fun d mode _ hd => setPrivateMode_yields hd mode _) h
    exact .ite (fun _ => (quiet_yields hModes).tolerant) fun _ => .ok h

theorem act_yields (h : d.Fits size) (action : Action) :
    YieldsUnless (¬ size.Safe) (d.act action) fun r => r.1.Fits size := by
  have hActive := h.activeBuffer
  cases action with
  | print ch =>
    have hPrint : Yields (d.print ch) (Fits size) := by
      unfold print
      exact onActive_yields h (ScreenBuffer.putChar_yields hActive _ _)
    exact (quiet_yields hPrint).tolerant
  | shift useG1 => exact .ok { h with }
  | lineFeed =>
    refine change_yields h _ ?_
    exact (ScreenBuffer.lineFeed_yields hActive).imp fun _ hs => hs.1
  | carriageReturn => exact move_yields h _ hActive.carriageReturn
  | backspace => exact move_yields h _ hActive.backspace
  | tab => exact risky_yields h _ (ScreenBuffer.tab_yields hActive)
  | csi params finalByte => exact control_yields h params _
  | osc payload => exact .ok (h.handleOsc payload)
  | designateCharset g0 code => exact .ok (h.designateCharset g0 code)
  | saveCursor => exact .ok h.saveCursor
  | restoreCursor => exact .ok h.restoreCursor
  | reset => exact .ok ⟨h.normal.reset, h.alternate.reset⟩
  | reverseIndex =>
    exact change_yields h _ (ScreenBuffer.reverseIndex_yields hActive)

/-! ## Traces -/

theorem perform_yields (actions : List Action) :
    ∀ d : Display, d.Fits size →
      YieldsUnless (¬ size.Safe) (d.perform actions) fun r => r.1.Fits size := by
  induction actions with
  | nil => exact fun d h => .ok h
  | cons action actions ih =>
    intro d h
    rcases act_yields h action with ⟨r, hAct, hFits⟩ | ⟨hUnsafe, fault, hFault⟩
    · rw [perform, hAct]
      exact (ih r.1 hFits).bind fun r' hr' => .ok hr'
    · rw [perform, hFault]
      exact .inr ⟨hUnsafe, fault, rfl⟩

end Display

/-! ## Engines -/

/-- Both buffers of the engine are grids of the size. -/
def TerminalEngine.IsGrid (size : TerminalSize) (t : TerminalEngine) : Prop :=
  t.toDisplay.Fits size

theorem TerminalEngine.new_isGrid (size : TerminalSize) : (TerminalEngine.new size).IsGrid size :=
  ⟨ScreenBuffer.new_fits size, ScreenBuffer.new_fits size⟩

theorem feed_yields {size : TerminalSize} {t : TerminalEngine} (h : t.IsGrid size)
    (bytes : List UInt8) :
    YieldsUnless (¬ size.Safe) (t.feedAndCollectReplies bytes) fun r => r.1.IsGrid size := by
  rw [feed_eq]
  exact YieldsUnless.map (Display.perform_yields _ _ h)

/-- The size that the engine has after the steps. -/
def sizeAfter (size : TerminalSize) : List EngineStep → TerminalSize
  | [] => size
  | .feed _ :: es => sizeAfter size es
  | .resize size' :: es => sizeAfter size' es

/-- Steps with safe sizes fault nowhere, and keep the grids. -/
theorem steps_yields (es : List EngineStep) :
    ∀ (size : TerminalSize) (t : TerminalEngine), size.Safe →
      (∀ size', EngineStep.resize size' ∈ es → size'.Safe) → t.IsGrid size →
      Yields (t.steps es) (TerminalEngine.IsGrid (sizeAfter size es)) := by
  induction es with
  | nil => exact fun size t _ _ h => .ok h
  | cons e es ih =>
    intro size t hSafe hSizes h
    have hRest : ∀ size', EngineStep.resize size' ∈ es → size'.Safe := fun size' hMem =>
      hSizes size' (List.mem_cons_of_mem e hMem)
    rw [TerminalEngine.steps, List.foldlM_cons]
    cases e with
    | feed bytes =>
      have hFeed := feed_yields h bytes
      have hStep : Yields (t.step (.feed bytes)) (TerminalEngine.IsGrid size) :=
        Yields.map (hFeed.yields fun hUnsafe => hUnsafe hSafe)
      exact hStep.bind fun t' ht' => ih size t' hSafe hRest ht'
    | resize size' =>
      have hGrid : (t.resize size').IsGrid size' :=
        ⟨h.normal.resize, h.alternate.resize⟩
      exact ih size' _ (hSizes size' List.mem_cons_self) hRest hGrid

/-- A buffer as it should always be. -/
structure ScreenBuffer.WellFormed (size : TerminalSize) (s : ScreenBuffer) : Prop where
  sized : s.size = size
  rows : s.cells.length = size.rows
  cols : ∀ row ∈ s.cells, row.length = size.cols
  cursorRow : s.cursorRow < size.rows
  cursorCol : s.cursorCol < size.cols
  region : s.scrollTop ≤ s.scrollBottom
  bottom : s.scrollBottom < size.rows
  saved : s.savedCursor.valid = true →
    s.savedCursor.row < size.rows ∧ s.savedCursor.col < size.cols
  scrollback : s.styledScrollback.length ≤ MAX_SCROLLBACK_LINES

/-- At least one row, and between 1 and 65000 columns. -/
structure TerminalSize.Usual (size : TerminalSize) : Prop where
  rows : 1 ≤ size.rows
  cols : 1 ≤ size.cols
  cols_le : size.cols ≤ 65000

theorem TerminalSize.Usual.safe {size : TerminalSize} (h : size.Usual) : size.Safe where
  cols := fun hZero => absurd h.cols (by omega)
  tab := by
    have := h.cols_le
    omega

theorem ScreenBuffer.Fits.wellFormed {size : TerminalSize} {s : ScreenBuffer} (hSize : size.Usual)
    (h : s.Fits size) : s.WellFormed size := by
  obtain ⟨hRows, hCols, -⟩ := hSize
  have hRow := h.cursorRow
  have hCol := h.cursorCol
  have hBottom := h.bottom
  refine ⟨h.sized, h.rows, h.cells, by omega, by omega, h.region, by omega,
    fun hValid => ?_, h.scrollback⟩
  have hSaved := h.saved hValid
  omega

theorem sizeAfter_usual (es : List EngineStep) :
    ∀ size : TerminalSize, size.Usual → (∀ size', EngineStep.resize size' ∈ es → size'.Usual) →
      (sizeAfter size es).Usual := by
  induction es with
  | nil => exact fun size h _ => h
  | cons e es ih =>
    intro size h hSizes
    have hRest : ∀ size', EngineStep.resize size' ∈ es → size'.Usual := fun size' hMem =>
      hSizes size' (List.mem_cons_of_mem e hMem)
    cases e with
    | feed bytes => exact ih size h hRest
    | resize size' => exact ih size' (hSizes size' List.mem_cons_self) hRest

/-- Whatever is fed and whichever usual sizes are taken on, no operation faults,
and both buffers are well formed for the size taken on last. -/
theorem engine_well_formed (size : TerminalSize) (es : List EngineStep) (hSize : size.Usual)
    (hSizes : ∀ size', EngineStep.resize size' ∈ es → size'.Usual) :
    ∃ t, (TerminalEngine.new size).steps es = .ok t ∧
      t.normal.WellFormed (sizeAfter size es) ∧ t.alternate.WellFormed (sizeAfter size es) := by
  have hUsual := sizeAfter_usual es size hSize hSizes
  obtain ⟨t, hSteps, hGrid⟩ := steps_yields es size _ hSize.safe
    (fun size' hMem => (hSizes size' hMem).safe) (TerminalEngine.new_isGrid size)
  exact ⟨t, hSteps, hGrid.normal.wellFormed hUsual, hGrid.alternate.wellFormed hUsual⟩

/-- A scroll region, a saved cursor and a wide character, and then a smaller size. -/
theorem engine_well_formed_resized :
    ∃ t, (TerminalEngine.new { rows := 3, cols := 4 }).steps
        [.feed (bytesOf "\x1b[2;3r\x1b7你\n\n"), .resize { rows := 1, cols := 1 }] = .ok t ∧
      t.normal.WellFormed { rows := 1, cols := 1 } ∧
      t.alternate.WellFormed { rows := 1, cols := 1 } := by
  refine engine_well_formed { rows := 3, cols := 4 } _ ⟨by decide, by decide, by decide⟩ ?_
  intro size' hMem
  simp only [List.mem_cons, reduceCtorEq, EngineStep.resize.injEq, List.not_mem_nil, or_false,
    false_or] at hMem
  subst hMem
  exact ⟨by decide, by decide, by decide⟩

end WaitAgent.Terminal
