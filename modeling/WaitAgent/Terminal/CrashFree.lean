import WaitAgent.Terminal.Sequences
import WaitAgent.Terminal.WellFormed

/-!
# Which sizes are safe

Window sizes reach the engine unchecked, so that they can be anything that fits
two 16-bit numbers.  Two kinds of sizes are not safe.  A screen with rows but no
columns has no cell under the cursor, which erasing up to the cursor writes
nevertheless.  On a screen of more than 65528 columns the tab stop after the
last ones is not a 16-bit number.  On all other sizes no input faults, and on
these some input does.
-/

namespace WaitAgent.Terminal

open Verified

/-- Erase the line up to the cursor. -/
def eraseToCursor : String :=
  csiText "1" 'K'

/-- To a column on the far right, and a tab. -/
def tabAtFarColumn : String :=
  csiText "65529" 'G' ++ "\t"

/-- The input that faults on a size that is not safe. -/
def crashInput (size : TerminalSize) : List UInt8 :=
  bytesOf (if size.cols = 0 then eraseToCursor else tabAtFarColumn)

theorem tab_far {size : TerminalSize} {s : ScreenBuffer}
    (h : s.Fits size) (hCols : 65528 < size.cols) :
    (s.moveCursorCol 65528).tab = .error .overflow := by
  have hSize : s.size.cols = size.cols := by rw [h.sized]
  have hFar : min 65528 (s.size.cols - 1) = 65528 := by omega
  unfold ScreenBuffer.tab ScreenBuffer.moveCursorCol
  dsimp only
  rw [if_neg (by omega), hFar]
  rfl

/-- What the input makes the display do. -/
def crashActions (size : TerminalSize) : List Action :=
  if size.cols = 0 then [.csi (bytesOf "1") 0x4b] else [.csi (bytesOf "65529") 0x47, .tab]

theorem feed_crashInput {p : Parser} (hEscape : p.pendingEscape = [])
    (hIdle : p.synchronizedUpdate = false) (size : TerminalSize) :
    p.feed (crashInput size) = (p, crashActions size) := by
  unfold crashInput crashActions
  split
  · exact Parser.feed_csiText hEscape hIdle (by decide) (by decide)
      (synchronized_public (by decide) _ _)
  · have hTab : p.feed (bytesOf "\t") = (p, [.tab]) := by
      refine (Parser.feed_sequence hEscape hIdle (rfl : lex 0x09 [] = .sequence (some .tab) [])
        rfl).trans ?_
      rw [Parser.feed_nil hEscape hIdle]
    rw [tabAtFarColumn, bytesOf_append, Parser.feed_csiText_append hEscape hIdle (by decide)
      (by decide) (synchronized_public (by decide) _ _), hTab]
    rfl

theorem perform_eraseToCursor {size : TerminalSize} {d : Display} (h : d.Fits size)
    (hCols : size.cols = 0) (hRows : size.rows ≠ 0) :
    d.perform [.csi (bytesOf "1") 0x4b] = .error .index := by
  have hErase : d.act (.csi (bytesOf "1") 0x4b) = .error .index := by
    have hCsi : d.handleCsi "1" 'K' = (d.onActive (·.clearLine 1)).map fun d => (d, []) := rfl
    rw [Display.onActive, ScreenBuffer.clearLine_no_cols h.activeBuffer hCols hRows] at hCsi
    exact (act_csi_public d "1" 'K' (by decide) (by decide)).trans hCsi
  rw [Display.perform, hErase]
  rfl

theorem perform_tabAtFarColumn {size : TerminalSize} {d : Display} (h : d.Fits size)
    (hCols : 65528 < size.cols) :
    d.perform [.csi (bytesOf "65529") 0x47, .tab] = .error .overflow := by
  have hMove : d.act (.csi (bytesOf "65529") 0x47) =
      .ok (d.setActiveBuffer (d.activeBuffer.moveCursorCol 65528), []) :=
    act_csi_public d "65529" 'G' (by decide) (by decide)
  have hTab : (d.setActiveBuffer (d.activeBuffer.moveCursorCol 65528)).act .tab =
      .error .overflow := by
    have hActive : (d.setActiveBuffer (d.activeBuffer.moveCursorCol 65528)).activeBuffer =
        d.activeBuffer.moveCursorCol 65528 := d.activeBuffer_setActiveBuffer _
    simp only [Display.act, Display.onActive, hActive, tab_far h.activeBuffer hCols]
    rfl
  simp only [Display.perform, hMove, hTab, collect_ok_nil]
  rfl

/-- On a size that is not safe the input faults. -/
theorem perform_crashActions {size : TerminalSize} (hUnsafe : ¬ size.Safe) {d : Display}
    (h : d.Fits size) : ∃ fault, d.perform (crashActions size) = .error fault := by
  unfold crashActions
  by_cases hCols : size.cols = 0
  · have hRows : size.rows ≠ 0 := fun hZero => hUnsafe ⟨fun _ => hZero, by omega⟩
    rw [if_pos hCols]
    exact ⟨_, perform_eraseToCursor h hCols hRows⟩
  · have hFar : 65528 < size.cols := by
      by_contra hNear
      exact hUnsafe ⟨fun hZero => absurd hZero hCols, by omega⟩
    rw [if_neg hCols]
    exact ⟨_, perform_tabAtFarColumn h hFar⟩

theorem step_crashInput {size : TerminalSize} (hUnsafe : ¬ size.Safe) {t : TerminalEngine}
    (hGrid : t.IsGrid size) (hEscape : t.pendingEscape = [])
    (hIdle : t.synchronizedUpdate = false) :
    ∃ fault, t.step (.feed (crashInput size)) = .error fault := by
  obtain ⟨fault, hFault⟩ := perform_crashActions hUnsafe hGrid
  have hFeed : t.parser.feed (crashInput size) = (t.parser, crashActions size) :=
    feed_crashInput hEscape hIdle size
  rw [TerminalEngine.step, feed_eq, hFeed, hFault]
  exact ⟨fault, rfl⟩

/-! ## Runs -/

/-- The sizes that the engine takes on in a run. -/
def resizes (es : List EngineStep) : List TerminalSize :=
  es.filterMap fun
    | .feed _ => none
    | .resize size => some size

theorem mem_resizes {es : List EngineStep} {size : TerminalSize} :
    size ∈ resizes es ↔ EngineStep.resize size ∈ es := by
  unfold resizes
  rw [List.mem_filterMap]
  constructor
  · rintro ⟨e, he, hSize⟩
    cases e with
    | feed bytes => cases hSize
    | resize size' =>
      cases hSize
      exact he
  · exact fun h => ⟨_, h, rfl⟩

theorem resizes_append (as bs : List EngineStep) :
    resizes (as ++ bs) = resizes as ++ resizes bs :=
  List.filterMap_append

theorem resizes_map (sizes : List TerminalSize) :
    resizes (sizes.map .resize) = sizes := by
  induction sizes with
  | nil => rfl
  | cons size sizes ih => exact congrArg (size :: ·) ih

theorem steps_append (t : TerminalEngine) (as bs : List EngineStep) :
    t.steps (as ++ bs) = t.steps as >>= fun t => t.steps bs :=
  List.foldlM_append

/-- Changes of the size alone leave a grid of the last one and nothing pending. -/
theorem steps_resize (sizes : List TerminalSize) :
    ∀ (size : TerminalSize) (t : TerminalEngine), t.IsGrid size → t.parser = {} →
      Yields (t.steps (sizes.map .resize)) fun t' =>
        t'.IsGrid (sizes.getLastD size) ∧ t'.parser = {} := by
  induction sizes with
  | nil => exact fun size t hGrid hParser => .ok ⟨hGrid, hParser⟩
  | cons size' sizes ih =>
    intro size t hGrid hParser
    have hResized : (t.resize size').IsGrid size' :=
      ⟨hGrid.normal.resize, hGrid.alternate.resize⟩
    rw [List.getLastD_cons]
    exact ih size' (t.resize size') hResized hParser

/-- A run that crashes where a size that is not safe was taken on. -/
theorem exists_crash {size : TerminalSize} (before : List TerminalSize)
    (hUnsafe : ¬ (before.getLastD size).Safe) (es : List EngineStep) (t : TerminalEngine) :
    (TerminalEngine.new size).steps
      (before.map .resize ++ .feed (crashInput (before.getLastD size)) :: es) ≠ .ok t := by
  obtain ⟨t', hSteps, hGrid, hParser⟩ :=
    steps_resize before size _ (TerminalEngine.new_isGrid size) rfl
  obtain ⟨fault, hStep⟩ := step_crashInput hUnsafe hGrid
    (congrArg Parser.pendingEscape hParser) (congrArg Parser.synchronizedUpdate hParser)
  rw [steps_append, hSteps]
  change t'.steps (_ :: es) ≠ _
  rw [TerminalEngine.steps, List.foldlM_cons, hStep]
  intro hOk
  cases hOk

/-- With these sizes, one after another, no input faults if and only if each of
them is safe. -/
theorem crash_free_iff (size : TerminalSize) (sizes : List TerminalSize) :
    (size.Safe ∧ ∀ size' ∈ sizes, size'.Safe) ↔
      ∀ es, resizes es = sizes → ∃ t, (TerminalEngine.new size).steps es = .ok t := by
  constructor
  · rintro ⟨hSafe, hSizes⟩ es rfl
    obtain ⟨t, hSteps, -⟩ := steps_yields es size _ hSafe
      (fun size' hMem => hSizes size' (mem_resizes.mpr hMem)) (TerminalEngine.new_isGrid size)
    exact ⟨t, hSteps⟩
  · intro hRuns
    -- the run that takes on the sizes up to one of them and is then fed
    have hEach : ∀ before after, sizes = before ++ after → (before.getLastD size).Safe := by
      intro before after hSplit
      by_contra hUnsafe
      obtain ⟨t, hSteps⟩ := hRuns
        (before.map .resize ++ .feed (crashInput (before.getLastD size)) :: after.map .resize) (by
          rw [resizes_append, resizes_map, hSplit]
          exact congrArg (before ++ ·) (resizes_map after))
      exact exists_crash before hUnsafe _ t hSteps
    refine ⟨hEach [] sizes rfl, fun size' hMem => ?_⟩
    obtain ⟨before, after, hSplit⟩ := List.append_of_mem hMem
    have hSafe := hEach (before ++ [size']) after (by rw [hSplit, List.append_assoc]; rfl)
    rwa [List.getLastD_concat] at hSafe

/-- A window without columns, and one that is very wide. -/
theorem no_cols_and_far_tab_crash :
    (TerminalEngine.new { rows := 1, cols := 0 }).feedAndCollectReplies
        [0x1b, 0x5b, 0x31, 0x4b] = .error .index ∧
      (TerminalEngine.new { rows := 0, cols := 65529 }).feedAndCollectReplies
        [0x1b, 0x5b, 0x36, 0x35, 0x35, 0x32, 0x39, 0x47, 0x09] = .error .overflow := by
  decide

end WaitAgent.Terminal
