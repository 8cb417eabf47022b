import WaitAgent.Terminal.CrashFree
import WaitAgent.Terminal.LineMovement

/-!
# Full-screen applications

An application that takes the whole screen enters the alternate buffer with `ESC[?1049h` and
leaves it with `ESC[?1049l`.  While the alternate buffer is active every action works on it or on
the modes, and none on the normal buffer, unless it leaves the alternate buffer or resets the
terminal.  The cursor of the normal buffer is saved in the normal buffer, where no save or restore
of the application reaches it.  Only a size on which the application can crash the engine keeps
it from coming back.
-/

namespace WaitAgent.Terminal

open Verified

/-- The action resets the terminal or, on the alternate screen, switches to the normal one.  (A
switch to the alternate screen does nothing there.) -/
def Action.endsAlternate (action : Action) : Bool :=
  match action with
  | .reset => true
  | .csi params finalByte =>
      match stripPrefix "?" (fromUtf8Lossy params) with
      | some privateParams =>
          Char.ofNat finalByte.toNat == 'l' &&
            (parseCsiNumbers privateParams).any fun mode =>
              mode == 47 || mode == 1047 || mode == 1048 || mode == 1049
      | none => false
  | _ => false

namespace Display

variable {d d' : Display}

/-! ## What stays while the alternate buffer is active -/

/-- The alternate buffer is active, and the normal one is `shell`. -/
structure Covers (shell : ScreenBuffer) (d : Display) : Prop where
  active : d.alternateScreenActive = true
  normal : d.normal = shell

variable {shell : ScreenBuffer}

theorem Covers.setActiveBuffer (h : d.Covers shell) (s : ScreenBuffer) :
    (d.setActiveBuffer s).Covers shell := by
  unfold Display.setActiveBuffer
  rw [if_pos h.active]
  exact ⟨h.active, h.normal⟩

theorem Covers.onActive (h : d.Covers shell) {f : ScreenBuffer → Except Fault ScreenBuffer}
    (hAct : d.onActive f = .ok d') : d'.Covers shell := by
  obtain ⟨s, -, hEq⟩ := bind_eq_ok.mp hAct
  cases hEq
  exact h.setActiveBuffer s

variable {r : Display × List UInt8}

theorem Covers.quiet (h : d.Covers shell) {f : ScreenBuffer → Except Fault ScreenBuffer}
    (hAct : (d.onActive f).map (fun d => (d, [])) = .ok r) :
    r.1.Covers shell := by
  cases hOn : d.onActive f with
  | error fault =>
    rw [hOn] at hAct
    cases hAct
  | ok next =>
    rw [hOn] at hAct
    cases hAct
    exact h.onActive hOn

theorem Covers.saveCursor (h : d.Covers shell) : d.saveCursor.Covers shell :=
  ⟨(h.setActiveBuffer _).active, (h.setActiveBuffer _).normal⟩

theorem Covers.restoreCursor (h : d.Covers shell) : d.restoreCursor.Covers shell :=
  ⟨(h.setActiveBuffer _).active, (h.setActiveBuffer _).normal⟩

theorem Covers.handlePublicMode (h : d.Covers shell) (numbers : List Nat) (finalByte : Char) :
    (d.handlePublicMode numbers finalByte).Covers shell := by
  unfold Display.handlePublicMode
  induction numbers generalizing d with
  | nil => exact h
  | cons mode modes ih =>
    rw [List.foldl_cons]
    split_ifs
    · exact ih ⟨h.active, h.normal⟩
    · exact ih h

theorem Covers.handleOsc (h : d.Covers shell) (payload : List UInt8) :
    (d.handleOsc payload).1.Covers shell := by
  unfold Display.handleOsc
  dsimp only
  split
  · exact h
  · split_ifs <;> exact ⟨h.active, h.normal⟩

theorem Covers.designateCharset (h : d.Covers shell) (g0 : Bool) (code : UInt8) :
    (d.designateCharset g0 code).Covers shell := by
  unfold Display.designateCharset
  split_ifs <;> exact ⟨h.active, h.normal⟩

/-- A private mode that is set, or that is not one of the alternate screen. -/
theorem Covers.setPrivateMode (h : d.Covers shell) {mode : Nat} {enabled : Bool}
    (hMode : enabled = true ∨ ¬ (mode = 47 ∨ mode = 1047 ∨ mode = 1048 ∨ mode = 1049)) :
    Yields (d.setPrivateMode mode enabled) (Covers shell) := by
  have hKept : ∀ next : Display, next.alternateScreenActive = d.alternateScreenActive →
      next.normal = d.normal → Yields (.ok next : Except Fault Display) (Covers shell) :=
    fun next hActive hNormal => .ok ⟨hActive.trans h.active, hNormal.trans h.normal⟩
  unfold Display.setPrivateMode
  refine .ite (fun _ => hKept _ rfl rfl) fun _ => ?_
  refine .ite (fun _ => hKept _ rfl rfl) fun _ => ?_
  refine .ite (fun _ => hKept _ rfl rfl) fun _ => ?_
  refine .ite (fun _ => hKept _ rfl rfl) fun _ => ?_
  refine .ite (fun hScreen => ?_) fun _ => ?_
  · have hEnabled : enabled = true := hMode.resolve_right (not_not.mpr hScreen)
    rw [setAlternateScreen, if_pos (by rw [hEnabled, h.active])]
    exact .ok h
  · refine .ite (fun _ => hKept _ rfl rfl) fun _ => ?_
    refine .ite (fun _ => hKept _ rfl rfl) fun _ => ?_
    refine .ite (fun _ => hKept _ rfl rfl) fun _ => ?_
    refine .ite (fun _ => hKept _ rfl rfl) fun _ => ?_
    refine .ite (fun _ => hKept _ rfl rfl) fun _ => ?_
    exact .ite (fun _ => hKept _ rfl rfl) fun _ => hKept _ rfl rfl

theorem Covers.handleCsi (h : d.Covers shell) {params : String} {finalByte : Char}
    (hAct : d.handleCsi params finalByte = .ok r) :
    r.1.Covers shell := by
  unfold Display.handleCsi at hAct
  dsimp only at hAct
  -- a final byte works on the active buffer, on the modes, or only replies
  split at hAct <;> first
    | exact h.quiet hAct
    | (cases hAct; first | exact h | exact h.handlePublicMode _ _)
    | (split_ifs at hAct <;> first
        | exact h.quiet hAct
        | (cases hAct; first | exact h | exact h.saveCursor | exact h.restoreCursor))

theorem Covers.control (h : d.Covers shell) {params : List UInt8} {finalByte : UInt8}
    (hEnds : (Action.csi params finalByte).endsAlternate = false)
    (hAct : d.control params (Char.ofNat finalByte.toNat) = .ok r) : r.1.Covers shell := by
  unfold Display.control at hAct
  dsimp only at hAct
  cases hPrivate : stripPrefix "?" (fromUtf8Lossy params) with
  | none =>
    rw [hPrivate] at hAct
    exact h.handleCsi hAct
  | some privateParams =>
    rw [hPrivate] at hAct
    simp only [Action.endsAlternate, hPrivate] at hEnds
    dsimp only at hAct
    split_ifs at hAct with hFinal
    · have hModes : ∀ mode ∈ parseCsiNumbers privateParams,
          (Char.ofNat finalByte.toNat == 'h') = true ∨
            ¬ (mode = 47 ∨ mode = 1047 ∨ mode = 1048 ∨ mode = 1049) := by
        intro mode hMem
        rcases hFinal with hSet | hReset
        · exact .inl (by rw [hSet]; rfl)
        · refine .inr fun hScreen => ?_
          rw [hReset, Bool.and_eq_false_iff] at hEnds
          have hNone := hEnds.resolve_left (by decide)
          have hSome := List.any_eq_false.mp hNone mode hMem
          simp only [Bool.or_eq_true, beq_iff_eq] at hSome
          exact hSome (by tauto)
      have hFold : Yields ((parseCsiNumbers privateParams).foldlM (fun (d : Display) mode =>
          d.setPrivateMode mode (Char.ofNat finalByte.toNat == 'h')) d) (Covers shell) :=
        Yields.foldlM _ d (fun _ mode hMem hd => hd.setPrivateMode (hModes mode hMem)) h
      obtain ⟨next, hRun, hNext⟩ := hFold
      rw [hRun] at hAct
      cases hAct
      exact hNext
    · cases hAct
      exact h

theorem Covers.act (h : d.Covers shell) {action : Action} (hEnds : action.endsAlternate = false)
    (hAct : d.act action = .ok r) : r.1.Covers shell := by
  cases action with
  | print ch | lineFeed | carriageReturn | backspace | tab | reverseIndex =>
    simp only [Display.act, Display.print] at hAct
    exact h.quiet hAct
  | shift useG1 =>
    cases hAct
    exact ⟨h.active, h.normal⟩
  | csi params finalByte => exact h.control hEnds hAct
  | osc payload =>
    cases hAct
    exact h.handleOsc payload
  | designateCharset g0 code =>
    cases hAct
    exact h.designateCharset g0 code
  | saveCursor =>
    cases hAct
    exact h.saveCursor
  | restoreCursor =>
    cases hAct
    exact h.restoreCursor
  | reset => cases hEnds

/-- The normal buffer stays through any actions that do not end the alternate screen. -/
theorem Covers.perform (actions : List Action) :
    ∀ d : Display, d.Covers shell → (∀ action ∈ actions, action.endsAlternate = false) →
      ∀ r, d.perform actions = .ok r → r.1.Covers shell := by
  induction actions with
  | nil =>
    intro d h _ r hAct
    cases hAct
    exact h
  | cons action actions ih =>
    intro d h hEnds r hAct
    obtain ⟨first, hFirst, hRest⟩ := bind_eq_ok.mp hAct
    obtain ⟨second, hSecond, hEq⟩ := bind_eq_ok.mp hRest
    cases hEq
    exact ih first.1 (h.act (hEnds action List.mem_cons_self) hFirst)
      (fun other hMem => hEnds other (List.mem_cons_of_mem _ hMem)) second hSecond

end Display

/-! ## Entering and leaving -/

def enterAlternate : List UInt8 :=
  bytesOf (csiText "?1049" 'h')

def leaveAlternate : List UInt8 :=
  bytesOf (csiText "?1049" 'l')

variable {t : TerminalEngine} {d : Display}

/-- Both sequences switch the screen and answer nothing. -/
theorem act_alternate (d : Display) (enter : Bool) :
    d.act (.csi (bytesOf "?1049") (if enter then 0x68 else 0x6c)) =
      (d.setAlternateScreen enter 1049).map fun d => (d, []) := by
  cases enter <;>
  · show ((d.setAlternateScreen _ 1049 >>= fun d => pure d).map fun d => (d, [])) = _
    rw [bind_pure]
    rfl

theorem act_enterAlternate (h : d.alternateScreenActive = false) :
    d.act (.csi (bytesOf "?1049") 0x68) =
      .ok ({ d.saveCursor with alternateScreenActive := true }, []) := by
  refine (act_alternate d true).trans ?_
  rw [Display.setAlternateScreen, if_neg (by rw [h]; decide), if_pos rfl, if_pos (by decide)]
  rfl

theorem act_leaveAlternate (h : d.alternateScreenActive = true) :
    d.act (.csi (bytesOf "?1049") 0x6c) =
      .ok (({ d with alternateScreenActive := false } : Display).restoreCursor, []) := by
  refine (act_alternate d false).trans ?_
  rw [Display.setAlternateScreen, if_neg (by rw [h]; decide)]
  rfl

/-! ## The shell's screen -/

/-- The shell's screen is as it was, and its cursor is where it was, in its style. -/
structure ShellKept (before after : ScreenBuffer) : Prop where
  cells : after.cells = before.cells
  scrollback : after.styledScrollback = before.styledScrollback
  region : after.scrollTop = before.scrollTop ∧ after.scrollBottom = before.scrollBottom
  cursor : after.cursorRow = before.cursorRow ∧ after.cursorCol = before.cursorCol
  style : after.currentStyle = before.currentStyle

theorem shellKept_restored {size : TerminalSize} {s : ScreenBuffer} (h : s.Fits size) :
    ShellKept s s.saveCursor.restoreCursor := by
  have hRow : min s.cursorRow (s.size.rows - 1) = s.cursorRow := by
    rw [h.sized]
    exact Nat.min_eq_left h.cursorRow
  have hCol : min s.cursorCol (s.size.cols - 1) = s.cursorCol := by
    rw [h.sized]
    exact Nat.min_eq_left h.cursorCol
  exact ⟨rfl, rfl, ⟨rfl, rfl⟩, ⟨hRow, hCol⟩, rfl⟩

theorem synchronized_1049 (finalByte : UInt8) :
    (Action.csi (bytesOf "?1049") finalByte).synchronized false = false := by
  have hModes : parseCsiNumbers "1049" = [1049] := by decide
  have hPrivate : stripPrefix "?" "?1049" = some "1049" := by decide
  simp only [Action.synchronized, fromUtf8Lossy_bytesOf, hPrivate, hModes]
  split_ifs <;> rfl

/-- One feed of a sequence that the parser reads alone. -/
theorem step_feed_action {bytes : List UInt8} {p : Parser} {actions : List Action}
    (h : t.parser.feed bytes = (p, actions)) :
    t.step (.feed bytes) = (t.toDisplay.perform actions).map fun r => r.1.withParser p := by
  rw [TerminalEngine.step, feed_eq, h, resume]
  cases t.toDisplay.perform actions <;> rfl

theorem step_enterAlternate (hNormal : t.alternateScreenActive = false)
    (hEscape : t.pendingEscape = []) (hUpdate : t.synchronizedUpdate = false) :
    t.step (.feed enterAlternate) = .ok
      (({ t.toDisplay.saveCursor with alternateScreenActive := true } : Display).withParser
        t.parser) := by
  have hFeed : t.parser.feed enterAlternate = (t.parser, [.csi (bytesOf "?1049") 0x68]) :=
    Parser.feed_csiText hEscape hUpdate (by decide) (by decide) (synchronized_1049 _)
  rw [step_feed_action hFeed, Display.perform, act_enterAlternate hNormal]
  rfl

theorem step_leaveAlternate (hActive : t.alternateScreenActive = true)
    (hEscape : t.pendingEscape = []) (hUpdate : t.synchronizedUpdate = false) :
    t.step (.feed leaveAlternate) = .ok
      ((({ t.toDisplay with alternateScreenActive := false } : Display).restoreCursor).withParser
        t.parser) := by
  have hFeed : t.parser.feed leaveAlternate = (t.parser, [.csi (bytesOf "?1049") 0x6c]) :=
    Parser.feed_csiText hEscape hUpdate (by decide) (by decide) (synchronized_1049 _)
  rw [step_feed_action hFeed, Display.perform, act_leaveAlternate hActive]
  rfl

/-- What the display is like on entering: the cursor of the normal buffer is saved. -/
theorem covers_entered (h : d.alternateScreenActive = false) :
    ({ d.saveCursor with alternateScreenActive := true } : Display).Covers
      d.normal.saveCursor := by
  refine ⟨rfl, ?_⟩
  simp [Display.saveCursor, Display.setActiveBuffer, Display.activeBuffer, h]

section

variable {size : TerminalSize} (hGrid : t.IsGrid size) (hNormal : t.alternateScreenActive = false)
  (hEscape : t.pendingEscape = []) (hUpdate : t.synchronizedUpdate = false)

include hGrid hNormal hEscape hUpdate

/-- A full-screen application that does not fault leaves the shell's screen alone. -/
theorem full_screen_yields {w : List UInt8}
    (hEnds : ∀ action ∈ (t.parser.feed w).2, action.endsAlternate = false)
    (hEscape' : (t.parser.feed w).1.pendingEscape = [])
    (hUpdate' : (t.parser.feed w).1.synchronizedUpdate = false) :
    YieldsUnless (¬ size.Safe) (t.steps [.feed enterAlternate, .feed w, .feed leaveAlternate])
      fun t' => t'.alternateScreenActive = false ∧ ShellKept t.normal t'.normal := by
  have hShell : t.normal.Fits size := hGrid.normal
  have hEntered := covers_entered hNormal
  have hFits : ({ t.toDisplay.saveCursor with alternateScreenActive := true } : Display).Fits
      size := { Display.Fits.saveCursor hGrid with }
  rw [TerminalEngine.steps, List.foldlM_cons, step_enterAlternate hNormal hEscape hUpdate]
  generalize ({ t.toDisplay.saveCursor with alternateScreenActive := true } : Display) = entered
    at hEntered hFits
  cases hFed : t.parser.feed w with
  | mk p actions =>
  rw [hFed] at hEnds hEscape' hUpdate'
  have hApplication : (entered.withParser t.parser).step (.feed w) =
      (entered.perform actions).map fun r => r.1.withParser p := step_feed_action hFed
  show YieldsUnless _ ((entered.withParser t.parser).step (.feed w) >>= fun t =>
    t.step (.feed leaveAlternate) >>= pure) _
  rw [hApplication]
  -- the application, which may fault on its own
  rcases Display.perform_yields actions entered hFits with
    ⟨r, hDone, -⟩ | ⟨hUnsafe, fault, hFault⟩
  · have hLeft := Display.Covers.perform actions entered hEntered hEnds r hDone
    have hLeave := step_leaveAlternate (t := r.1.withParser p) hLeft.active hEscape' hUpdate'
    rw [hDone]
    show YieldsUnless _ ((r.1.withParser p).step (.feed leaveAlternate) >>= pure) _
    rw [hLeave]
    refine .ok ⟨rfl, ?_⟩
    show ShellKept t.normal r.1.normal.restoreCursor
    rw [hLeft.normal]
    exact shellKept_restored hShell
  · rw [hFault]
    exact .inr ⟨hUnsafe, fault, rfl⟩

/-- On a size that is not safe there is an application that faults. -/
theorem full_screen_crash (hUnsafe : ¬ size.Safe) (es : List EngineStep) :
    ∃ fault, t.steps (.feed enterAlternate :: .feed (crashInput size) :: es) = .error fault := by
  have hCrash : ∀ entered : TerminalEngine, entered.IsGrid size → entered.parser = t.parser →
      ∃ fault, entered.steps (.feed (crashInput size) :: es) = .error fault := by
    intro entered hEntered hParser
    obtain ⟨fault, hFault⟩ := step_crashInput hUnsafe hEntered
      ((congrArg Parser.pendingEscape hParser).trans hEscape)
      ((congrArg Parser.synchronizedUpdate hParser).trans hUpdate)
    exact ⟨fault, by rw [TerminalEngine.steps, List.foldlM_cons, hFault]; rfl⟩
  rw [TerminalEngine.steps, List.foldlM_cons, step_enterAlternate hNormal hEscape hUpdate]
  exact hCrash _ { Display.Fits.saveCursor hGrid with } rfl

end

theorem endsAlternate_crashActions (size : TerminalSize) :
    ∀ action ∈ crashActions size, action.endsAlternate = false := by
  unfold crashActions
  split <;> decide

/-- A full-screen application leaves the shell's screen alone.  From any engine that was reached,
on the normal screen and with no input pending: after entering the alternate screen, any bytes
that neither end it nor leave input pending, and leaving it, the shell's screen is kept, exactly
if the size is a safe one. -/
theorem full_screen_keeps_shell_iff (size : TerminalSize) (es : List EngineStep)
    (t : TerminalEngine) (hRun : (TerminalEngine.new size).steps es = .ok t)
    (hNormal : t.alternateScreenActive = false) (hEscape : t.pendingEscape = [])
    (hUpdate : t.synchronizedUpdate = false) :
    (∀ w, (∀ action ∈ (t.parser.feed w).2, action.endsAlternate = false) →
        (t.parser.feed w).1.pendingEscape = [] →
        (t.parser.feed w).1.synchronizedUpdate = false →
        Yields (t.steps [.feed enterAlternate, .feed w, .feed leaveAlternate]) fun t' =>
          t'.alternateScreenActive = false ∧ ShellKept t.normal t'.normal) ↔
      (sizeAfter size es).Safe := by
  have hGrid := isGrid_of_steps es size _ t (TerminalEngine.new_isGrid size) hRun
  constructor
  · intro hKept
    by_contra hUnsafe
    have hFeed : t.parser.feed (crashInput (sizeAfter size es)) =
        (t.parser, crashActions (sizeAfter size es)) := feed_crashInput hEscape hUpdate _
    obtain ⟨t', hDone, -⟩ := hKept (crashInput (sizeAfter size es))
      (by rw [hFeed]; exact endsAlternate_crashActions _) (by rw [hFeed]; exact hEscape)
      (by rw [hFeed]; exact hUpdate)
    obtain ⟨fault, hFault⟩ := full_screen_crash hGrid hNormal hEscape hUpdate hUnsafe
      [.feed leaveAlternate]
    rw [hFault] at hDone
    cases hDone
  · intro hSafe w hEnds hEscape' hUpdate'
    exact (full_screen_yields hGrid hNormal hEscape hUpdate hEnds hEscape' hUpdate').yields
      fun hUnsafe => hUnsafe hSafe

/-- A shell with a prompt in red on its second line, and an application that saves its cursor,
writes and clears the screen. -/
theorem cleared_screen_keeps_shell :
    ∃ t, (TerminalEngine.new { rows := 2, cols := 4 }).steps
        [.feed (bytesOf "ls\r\n\x1b[31m$ ")] = .ok t
      ∧ (t.normal.cursorRow, t.normal.cursorCol) = (1, 2)
      ∧ Yields (t.steps [.feed enterAlternate, .feed (bytesOf "\x1b7vi\x1b[2J\x1b8"),
          .feed leaveAlternate])
        fun t' => t'.alternateScreenActive = false ∧ ShellKept t.normal t'.normal := by
  have hShell : ((TerminalEngine.new { rows := 2, cols := 4 }).steps
      [.feed (bytesOf "ls\r\n\x1b[31m$ ")]).map (fun t =>
        ((t.normal.cursorRow, t.normal.cursorCol), t.alternateScreenActive, t.parser)) =
      .ok ((1, 2), false, {}) := by decide +kernel
  cases hRun : (TerminalEngine.new { rows := 2, cols := 4 }).steps
      [.feed (bytesOf "ls\r\n\x1b[31m$ ")] with
  | error fault =>
    rw [hRun] at hShell
    cases hShell
  | ok t =>
    rw [hRun] at hShell
    obtain ⟨hCursor, hNormal, hParser⟩ : (t.normal.cursorRow, t.normal.cursorCol) = (1, 2)
        ∧ t.alternateScreenActive = false ∧ t.parser = {} := by
      simpa using Except.ok.inj hShell
    have hFeed : (({} : Parser).feed (bytesOf "\x1b7vi\x1b[2J\x1b8")) =
        ({}, [.saveCursor, .print 'v', .print 'i', .csi (bytesOf "2") 0x4a, .restoreCursor]) := by
      decide +kernel
    refine ⟨t, rfl, hCursor, ?_⟩
    refine (full_screen_keeps_shell_iff _ _ t hRun hNormal (congrArg Parser.pendingEscape hParser)
      (congrArg Parser.synchronizedUpdate hParser)).mpr ⟨by decide, by decide⟩ _ ?_ ?_ ?_
    all_goals rw [hParser, hFeed]
    decide

/-- A window without columns, where an application erases its line up to the cursor. -/
theorem full_screen_crash_no_cols :
    (∀ action ∈ (({} : Parser).feed [0x1b, 0x5b, 0x31, 0x4b]).2, action.endsAlternate = false)
      ∧ (({} : Parser).feed [0x1b, 0x5b, 0x31, 0x4b]).1 = {}
      ∧ (TerminalEngine.new { rows := 1, cols := 0 }).parser = {}
      ∧ (TerminalEngine.new { rows := 1, cols := 0 }).steps
        [.feed enterAlternate, .feed [0x1b, 0x5b, 0x31, 0x4b], .feed leaveAlternate] =
          .error .index := by
  decide +kernel

end WaitAgent.Terminal
