import WaitAgent.Terminal.Engine

/-!
# Feeding as a trace of actions

The engine mixes parsing and acting.  Here the two are told apart: the parser
alone turns bytes into a list of actions and keeps what it needs for the next
bytes, and the display performs the actions.  `feed_eq` says that feeding is
the one after the other, so that what the bytes mean can be studied on the
parser, and what the actions do to the screen on the display.
-/

namespace WaitAgent.Terminal

open Verified

/-! ## The parser -/

/-- What the engine keeps of the input between two feeds. -/
structure Parser where
  pendingEscape : List UInt8 := []
  pendingUtf8 : List UInt8 := []
  synchronizedUpdate : Bool := false
  synchronizedBuffer : List UInt8 := []
  deriving DecidableEq, Repr

/-- Is a synchronized update on after the action? -/
def Action.synchronized (action : Action) (on : Bool) : Bool :=
  match action with
  | .csi params finalByte =>
      let finalByte := Char.ofNat finalByte.toNat
      match stripPrefix "?" (fromUtf8Lossy params) with
      | some privateParams =>
          if finalByte = 'h' ∨ finalByte = 'l' then
            (parseCsiNumbers privateParams).foldl
              (fun on mode => if mode = 2026 then finalByte == 'h' else on) on
          else
            on
      | none => on
  | _ => on

/-- A sequence that was found is shorter than the input, and more input does not
change it. -/
theorem scanCsi_found {bytes params after : List UInt8} {finalByte : UInt8}
    (h : scanCsi bytes = some (params, finalByte, after)) :
    after.length < bytes.length ∧
      ∀ more, scanCsi (bytes ++ more) = some (params, finalByte, after ++ more) := by
  induction bytes generalizing params with
  | nil => cases h
  | cons byte rest ih =>
    rw [scanCsi] at h
    split at h
    · rename_i hFinal
      cases h
      refine ⟨Nat.lt_succ_self _, fun more => ?_⟩
      rw [List.cons_append, scanCsi, if_pos hFinal]
    · rename_i hParam
      obtain ⟨⟨params', finalByte', after'⟩, hScan, hEq⟩ := Option.map_eq_some_iff.mp h
      cases hEq
      obtain ⟨hLength, hMore⟩ := ih hScan
      refine ⟨Nat.lt_succ_of_lt hLength, fun more => ?_⟩
      rw [List.cons_append, scanCsi, if_neg hParam, hMore]
      rfl

theorem scanOsc_found {bytes payload after : List UInt8}
    (h : scanOsc bytes = some (payload, after)) :
    after.length < bytes.length ∧
      ∀ more, scanOsc (bytes ++ more) = some (payload, after ++ more) := by
  induction bytes generalizing payload with
  | nil => cases h
  | cons byte rest ih =>
    rw [scanOsc] at h
    split at h
    · rename_i hBell
      cases h
      refine ⟨Nat.lt_succ_self _, fun more => ?_⟩
      rw [List.cons_append, scanOsc, if_pos hBell]
    · rename_i hNoBell
      -- an escape byte is judged by its successor, so there must be one
      cases rest with
      | nil => simp [scanOsc] at h
      | cons next rest =>
        have hHead : ∀ more, ((next :: rest) ++ more).head? = (next :: rest).head? :=
          fun _ => rfl
        split at h
        · rename_i hEnd
          cases h
          refine ⟨Nat.lt_succ_of_lt (Nat.lt_succ_self _), fun more => ?_⟩
          rw [List.cons_append, scanOsc, if_neg hNoBell, hHead, if_pos hEnd]
          rfl
        · rename_i hPayload
          obtain ⟨⟨payload', after'⟩, hScan, hEq⟩ := Option.map_eq_some_iff.mp h
          cases hEq
          obtain ⟨hLength, hMore⟩ := ih hScan
          refine ⟨Nat.lt_succ_of_lt hLength, fun more => ?_⟩
          rw [List.cons_append, scanOsc, if_neg hNoBell, hHead, if_neg hPayload, hMore]
          rfl

theorem lexEscape_sequence {bytes after : List UInt8} {action : Option Action}
    (h : lexEscape bytes = .sequence action after) :
    after.length < bytes.length ∧
      ∀ more, lexEscape (bytes ++ more) = .sequence action (after ++ more) := by
  cases bytes with
  | nil => cases h
  | cons byte rest =>
    simp only [lexEscape, List.cons_append, List.length_cons] at h ⊢
    split at h
    · cases hScan : scanCsi rest with
      | none =>
        rw [hScan] at h
        cases h
      | some found =>
        rw [hScan] at h
        cases h
        obtain ⟨hLength, hMore⟩ := scanCsi_found hScan
        exact ⟨by omega, fun more => by simp [*]⟩
    · split at h
      · cases hScan : scanOsc rest with
        | none =>
          rw [hScan] at h
          cases h
        | some found =>
          rw [hScan] at h
          cases h
          obtain ⟨hLength, hMore⟩ := scanOsc_found hScan
          exact ⟨by omega, fun more => by simp [*]⟩
      · split at h
        · cases rest with
          | nil => cases h
          | cons code rest =>
            cases h
            refine ⟨?_, fun more => by simp [*]⟩
            rw [List.length_cons]
            omega
        · grind

/-- What `lex` finds does not depend on what comes later. -/
theorem lex_sequence {byte : UInt8} {rest after : List UInt8} {action : Option Action}
    (h : lex byte rest = .sequence action after) :
    after.length ≤ rest.length ∧
      ∀ more, lex byte (rest ++ more) = .sequence action (after ++ more) := by
  unfold lex at h ⊢
  split at h
  · rename_i hEscape
    obtain ⟨hLength, hMore⟩ := lexEscape_sequence h
    refine ⟨Nat.le_of_lt hLength, fun more => ?_⟩
    rw [if_pos hEscape, hMore]
  · grind

theorem lexEscape_ne_plain (bytes : List UInt8) : lexEscape bytes ≠ .plain := by
  fun_cases lexEscape bytes <;> nofun

/-- Whether a byte is plain text is decided by the byte. -/
theorem lex_plain {byte : UInt8} {rest : List UInt8} (h : lex byte rest = .plain)
    (others : List UInt8) : lex byte others = .plain := by
  unfold lex at h ⊢
  split at h
  · exact absurd h (lexEscape_ne_plain rest)
  · grind

namespace Parser

/-- What the plain bytes come to, with the unfinished character before them. -/
def decoded (p : Parser) (plain : List UInt8) : Decoded :=
  if plain.isEmpty then ([], p.pendingUtf8) else decodeStream (p.pendingUtf8 ++ plain)

def printed (p : Parser) (plain : List UInt8) : List Action :=
  (p.decoded plain).1.map .print

def flush (p : Parser) (plain : List UInt8) : Parser :=
  { p with pendingUtf8 := (p.decoded plain).2 }

/-- The parser where an update is applied: its bytes become input. -/
def endUpdate (p : Parser) : Parser :=
  { p with pendingEscape := [], synchronizedUpdate := false, synchronizedBuffer := [] }

/-- An action can begin a synchronized update, or end one. -/
def after (p : Parser) (action : Option Action) : Parser :=
  { p with
    synchronizedUpdate :=
      action.elim p.synchronizedUpdate (·.synchronized p.synchronizedUpdate) }

/-- A bound on the turns that are left. -/
def work (p : Parser) (input : List UInt8) : Nat :=
  2 * (input.length + p.pendingEscape.length + p.synchronizedBuffer.length)
    + if p.synchronizedUpdate then 1 else 0

theorem work_le (p : Parser) (input : List UInt8) :
    p.work input ≤
      2 * (input.length + p.pendingEscape.length + p.synchronizedBuffer.length) + 1 := by
  unfold work
  split <;> omega

/-- The feeding loop without the display. -/
def parse (p : Parser) (plain input : List UInt8) : Parser × List Action :=
  match input with
  | [] => (p.flush plain, p.printed plain)
  | byte :: rest =>
      if _hUpdate : p.synchronizedUpdate = true then
        let buffer := p.synchronizedBuffer ++ byte :: rest
        if shouldFlushSynchronizedBuffer buffer (rest.length + 1) then
          p.endUpdate.parse [] (p.pendingEscape ++ buffer)
        else
          ({ p with synchronizedBuffer := buffer }, [])
      else
        match _hLex : lex byte rest with
        | .plain => p.parse (plain ++ [byte]) rest
        | .incomplete =>
            ({ p.flush plain with pendingEscape := p.pendingEscape ++ byte :: rest },
              p.printed plain)
        | .sequence action rest =>
            let r := ((p.flush plain).after action).parse [] rest
            (r.1, p.printed plain ++ (action.toList ++ r.2))
termination_by p.work input
decreasing_by
  · simp only [work, endUpdate, _hUpdate, List.length_append, List.length_cons, List.length_nil,
      if_true, Bool.false_eq_true, if_false]
    omega
  · simp only [work, List.length_cons]
    omega
  · have := (lex_sequence _hLex).1
    simp only [work, flush, after, List.length_cons, _hUpdate, Bool.false_eq_true, if_false]
    split <;> omega

theorem parse_nil (p : Parser) (plain : List UInt8) :
    p.parse plain [] = (p.flush plain, p.printed plain) := by
  rw [parse]

section

variable {p : Parser} {plain : List UInt8} {byte : UInt8} {rest : List UInt8}

theorem parse_update (h : p.synchronizedUpdate = true) :
    p.parse plain (byte :: rest) =
      if shouldFlushSynchronizedBuffer (p.synchronizedBuffer ++ byte :: rest) (rest.length + 1) then
        p.endUpdate.parse [] (p.pendingEscape ++ (p.synchronizedBuffer ++ byte :: rest))
      else
        ({ p with synchronizedBuffer := p.synchronizedBuffer ++ byte :: rest }, []) := by
  rw [parse, dif_pos h]

theorem parse_plain (h : p.synchronizedUpdate = false) (hLex : lex byte rest = .plain) :
    p.parse plain (byte :: rest) = p.parse (plain ++ [byte]) rest := by
  rw [parse, dif_neg (Bool.eq_false_iff.mp h)]
  split <;> simp_all

theorem parse_incomplete (h : p.synchronizedUpdate = false) (hLex : lex byte rest = .incomplete) :
    p.parse plain (byte :: rest) =
      ({ p.flush plain with pendingEscape := p.pendingEscape ++ byte :: rest },
        p.printed plain) := by
  rw [parse, dif_neg (Bool.eq_false_iff.mp h)]
  split <;> simp_all

theorem parse_sequence (h : p.synchronizedUpdate = false) {action : Option Action}
    {after : List UInt8} (hLex : lex byte rest = .sequence action after) :
    p.parse plain (byte :: rest) =
      ((((p.flush plain).after action).parse [] after).1,
        p.printed plain ++
          (action.toList ++ (((p.flush plain).after action).parse [] after).2)) := by
  rw [parse, dif_neg (Bool.eq_false_iff.mp h)]
  split <;> simp_all

end

/-- `feed_and_collect_replies` without the display. -/
def feed (p : Parser) (bytes : List UInt8) : Parser × List Action :=
  if p.synchronizedUpdate then
    let buffer := p.synchronizedBuffer ++ bytes
    if shouldFlushSynchronizedBuffer buffer bytes.length then
      p.endUpdate.parse [] (p.pendingEscape ++ buffer)
    else
      ({ p with synchronizedBuffer := buffer }, [])
  else
    { p with pendingEscape := [] }.parse [] (p.pendingEscape ++ bytes)

end Parser

/-! ## The display under a trace -/

section

variable {σ τ υ : Type}

theorem collect_ok_nil (a : σ) (f : σ → Except Fault (τ × List UInt8)) :
    collect (.ok (a, [])) f = f a := by
  unfold collect
  cases hf : f a with
  | error fault => simp [hf, bind, Except.bind]
  | ok r => simp [hf, bind, Except.bind, pure, Except.pure]

theorem collect_assoc (x : Except Fault (σ × List UInt8))
    (f : σ → Except Fault (τ × List UInt8)) (g : τ → Except Fault (υ × List UInt8)) :
    collect (collect x f) g = collect x fun a => collect (f a) g := by
  cases x with
  | error fault => rfl
  | ok r =>
    simp only [collect, bind, Except.bind, pure, Except.pure]
    cases f r.1 with
    | error fault => rfl
    | ok r' =>
      dsimp only
      cases g r'.1 with
      | error fault => rfl
      | ok r'' => simp

end

namespace Display

/-- Perform the actions in order. -/
def perform : Display → List Action → Except Fault (Display × List UInt8)
  | d, [] => .ok (d, [])
  | d, action :: actions => collect (d.act action) fun d => d.perform actions

theorem perform_append (xs ys : List Action) (d : Display) :
    d.perform (xs ++ ys) = collect (d.perform xs) fun d => d.perform ys := by
  induction xs generalizing d with
  | nil => rw [List.nil_append, perform, collect_ok_nil]
  | cons x xs ih =>
    rw [List.cons_append, perform, perform, collect_assoc]
    simp only [ih]

/-- The engine with this display and this parser. -/
def withParser (d : Display) (p : Parser) : TerminalEngine where
  toDisplay := d
  pendingEscape := p.pendingEscape
  pendingUtf8 := p.pendingUtf8
  synchronizedUpdate := p.synchronizedUpdate
  synchronizedBuffer := p.synchronizedBuffer

end Display

/-- The parser's part of an engine. -/
def TerminalEngine.parser (t : TerminalEngine) : Parser where
  pendingEscape := t.pendingEscape
  pendingUtf8 := t.pendingUtf8
  synchronizedUpdate := t.synchronizedUpdate
  synchronizedBuffer := t.synchronizedBuffer

@[simp] theorem Display.toDisplay_withParser (d : Display) (p : Parser) :
    (d.withParser p).toDisplay = d := rfl

/-- The result of a display, for an engine with the parser `p`. -/
def resume (p : Parser) (x : Except Fault (Display × List UInt8)) :
    Except Fault (TerminalEngine × List UInt8) :=
  x.map fun r => (r.1.withParser p, r.2)

/-! ## Feeding is parsing and performing -/

/-- The modes of a private sequence: the display has its part of each, and the
parser that of the synchronized update. -/
theorem foldlM_privateMode (enabled : Bool) (modes : List Nat) :
    ∀ (d : Display) (p : Parser),
      modes.foldlM
        (fun (t : TerminalEngine) mode =>
          if mode = 2026 then
            .ok { t with synchronizedUpdate := enabled }
          else do
            let d ← t.toDisplay.setPrivateMode mode enabled
            return { t with toDisplay := d }) (d.withParser p) =
      (modes.foldlM (fun (d : Display) mode => d.setPrivateMode mode enabled) d).map fun d =>
        d.withParser { p with
          synchronizedUpdate :=
            modes.foldl (fun on mode => if mode = 2026 then enabled else on)
              p.synchronizedUpdate } := by
  induction modes with
  | nil => exact fun d p => rfl
  | cons mode modes ih =>
    intro d p
    rw [List.foldlM_cons, List.foldlM_cons, List.foldl_cons]
    by_cases hMode : mode = 2026
    · subst hMode
      have hNone : d.setPrivateMode 2026 enabled = .ok d := by simp [Display.setPrivateMode]
      rw [if_pos rfl, if_pos rfl, hNone]
      exact ih d { p with synchronizedUpdate := enabled }
    · rw [if_neg hMode, if_neg hMode, Display.toDisplay_withParser]
      cases d.setPrivateMode mode enabled with
      | error fault => rfl
      | ok d' => exact ih d' p

theorem act_withParser (d : Display) (p : Parser) (action : Action) :
    (d.withParser p).act action =
      resume { p with synchronizedUpdate := action.synchronized p.synchronizedUpdate }
        (d.act action) := by
  cases action with
  | csi params finalByte =>
    simp only [TerminalEngine.act, Display.act, Action.synchronized, Display.control,
      TerminalEngine.handleCsi]
    cases stripPrefix "?" (fromUtf8Lossy params) with
    | none =>
      dsimp only
      rw [Display.toDisplay_withParser]
      cases d.handleCsi (fromUtf8Lossy params) (Char.ofNat finalByte.toNat) <;> rfl
    | some privateParams =>
      dsimp only
      rw [TerminalEngine.handlePrivateMode]
      split
      · rw [foldlM_privateMode]
        generalize (parseCsiNumbers privateParams).foldlM (m := Except Fault) _ d = x
        cases x <;> rfl
      · rfl
  | _ =>
    simp only [TerminalEngine.act, Action.synchronized, Display.toDisplay_withParser]
    cases d.act _ <;> rfl

/-- Putting a character leaves the modes and the character set alone. -/
theorem onActive_frame {d d' : Display} {f : ScreenBuffer → Except Fault ScreenBuffer}
    (h : d.onActive f = .ok d') :
    d'.writeModes = d.writeModes ∧ d'.activeCharset = d.activeCharset := by
  obtain ⟨s, -, hEq⟩ := bind_eq_ok.mp h
  cases hEq
  unfold Display.setActiveBuffer
  split <;> exact ⟨rfl, rfl⟩

/-- Printing characters one by one, with the modes read each time, is what the
source does with the modes read once. -/
theorem perform_print (modes : WriteModes) (decGraphics : Bool) (chars : List Char) :
    ∀ d : Display, d.writeModes = modes → (d.activeCharset == .decGraphics) = decGraphics →
      d.perform (chars.map .print) =
        (chars.foldlM
          (fun (d : Display) ch =>
            d.onActive (·.putChar (if decGraphics then translateDecGraphics ch else ch) modes))
          d).map fun d => (d, []) := by
  induction chars with
  | nil => exact fun d _ _ => rfl
  | cons ch chars ih =>
    intro d hModes hCharset
    have hPrint : d.print ch =
        d.onActive (·.putChar (if decGraphics then translateDecGraphics ch else ch) modes) := by
      rw [Display.print, hModes, ← hCharset]
      simp only [beq_iff_eq]
    rw [List.map_cons, Display.perform, Display.act, hPrint, List.foldlM_cons]
    cases hPut : d.onActive _ with
    | error fault => rfl
    | ok d' =>
      obtain ⟨hModes', hCharset'⟩ := onActive_frame hPut
      have hRest := ih d' (hModes'.trans hModes) (by rw [hCharset', hCharset])
      simp only [Except.map, bind, Except.bind, collect_ok_nil]
      exact hRest

/-- Flushing is performing the printed characters; it has no replies. -/
theorem flushPlain_withParser (d : Display) (p : Parser) (plain : List UInt8) :
    ∃ x : Except Fault Display,
      d.perform (p.printed plain) = x.map (fun d => (d, [])) ∧
      (d.withParser p).flushPlain plain = x.map fun d => d.withParser (p.flush plain) := by
  unfold TerminalEngine.flushPlain Parser.printed Parser.flush Parser.decoded
  split
  · exact ⟨.ok d, rfl, rfl⟩
  · refine ⟨_, perform_print d.writeModes _ _ d rfl rfl, ?_⟩
    rw [decodeUtf8Chars_eq]
    rfl

/-- An action that may be missing. -/
theorem act_optional (d : Display) (p : Parser) (action : Option Action) :
    (match action with
      | some action => (d.withParser p).act action
      | none => .ok (d.withParser p, [])) =
      resume (p.after action) (d.perform action.toList) := by
  cases action with
  | none => rfl
  | some action =>
    dsimp only
    rw [act_withParser, Option.toList_some, Display.perform]
    simp only [Display.perform]
    cases d.act action <;> simp [resume, collect, bind, Except.bind, Except.map, pure,
      Except.pure, Parser.after]

/-- Two parts of a run of the engine, each of them resumed from the display's. -/
theorem collect_resume {x : Except Fault (TerminalEngine × List UInt8)} {p p' : Parser}
    {y : Except Fault (Display × List UInt8)} {actions : List Action}
    {f : TerminalEngine → Except Fault (TerminalEngine × List UInt8)}
    (hf : ∀ d : Display, f (d.withParser p) = resume p' (d.perform actions))
    (hx : x = resume p y) :
    collect x f = resume p' (collect y fun d => d.perform actions) := by
  subst hx
  cases y with
  | error fault => rfl
  | ok r =>
    simp only [collect, resume, Except.map, bind, Except.bind, hf]
    cases r.1.perform actions <;> rfl

theorem feedLoop_withParser :
    ∀ (fuel : Nat) (d : Display) (p : Parser) (plain input : List UInt8), p.work input < fuel →
      TerminalEngine.feedLoop fuel (d.withParser p) plain input =
        resume (p.parse plain input).1 (d.perform (p.parse plain input).2) := by
  intro fuel
  induction fuel with
  | zero => exact fun d p plain input h => absurd h (Nat.not_lt_zero _)
  | succ fuel ih =>
    intro d p plain input hFuel
    obtain ⟨x, hPerform, hFlush⟩ := flushPlain_withParser d p plain
    cases input with
    | nil =>
      rw [TerminalEngine.feedLoop, Parser.parse, hPerform, hFlush]
      cases x <;> rfl
    | cons byte rest =>
      rw [TerminalEngine.feedLoop]
      change (if p.synchronizedUpdate = true then _ else _) = _
      by_cases hUpdate : p.synchronizedUpdate = true
      · rw [if_pos hUpdate, Parser.parse_update hUpdate]
        change (if shouldFlushSynchronizedBuffer (p.synchronizedBuffer ++ _) _ = true then _
          else _) = _
        by_cases hEnd : shouldFlushSynchronizedBuffer (p.synchronizedBuffer ++ byte :: rest)
            (rest.length + 1) = true
        · rw [if_pos hEnd, if_pos hEnd]
          refine ih d p.endUpdate []
            (p.pendingEscape ++ (p.synchronizedBuffer ++ byte :: rest)) ?_
          simp only [Parser.work, hUpdate, if_true, List.length_cons] at hFuel
          simp only [Parser.work, Parser.endUpdate, List.length_append, List.length_cons,
            List.length_nil, Bool.false_eq_true, if_false]
          omega
        · rw [if_neg hEnd, if_neg hEnd]
          rfl
      · rw [if_neg hUpdate]
        rw [Bool.not_eq_true] at hUpdate
        simp only [Parser.work, hUpdate, Bool.false_eq_true, if_false,
          List.length_cons] at hFuel
        cases hLex : lex byte rest with
        | plain =>
          rw [Parser.parse_plain hUpdate hLex]
          apply ih
          simp only [Parser.work, hUpdate, Bool.false_eq_true, if_false]
          omega
        | incomplete =>
          rw [Parser.parse_incomplete hUpdate hLex, hPerform]
          dsimp only
          rw [hFlush]
          cases x <;> rfl
        | sequence action after =>
          have hShorter := (lex_sequence hLex).1
          have hLeft : ((p.flush plain).after action).work after < fuel := by
            have hWork := ((p.flush plain).after action).work_le after
            simp only [Parser.after, Parser.flush] at hWork ⊢
            omega
          rw [Parser.parse_sequence hUpdate hLex, Display.perform_append, hPerform]
          dsimp only
          rw [hFlush]
          cases x with
          | error fault => rfl
          | ok d' =>
            simp only [Except.map, bind, Except.bind, collect_ok_nil]
            rw [Display.perform_append]
            exact collect_resume (fun d'' => ih d'' _ [] after hLeft)
              (act_optional d' _ action)

/-- Feeding is parsing, and performing what was parsed. -/
theorem feed_eq (t : TerminalEngine) (bytes : List UInt8) :
    t.feedAndCollectReplies bytes =
      resume (t.parser.feed bytes).1 (t.toDisplay.perform (t.parser.feed bytes).2) := by
  unfold TerminalEngine.feedAndCollectReplies Parser.feed
  change (if t.parser.synchronizedUpdate = true then _ else _) = _
  by_cases hUpdate : t.parser.synchronizedUpdate = true
  · rw [if_pos hUpdate, if_pos hUpdate]
    change (if shouldFlushSynchronizedBuffer (t.parser.synchronizedBuffer ++ bytes) _ = true then _
      else _) = _
    by_cases hEnd : shouldFlushSynchronizedBuffer (t.parser.synchronizedBuffer ++ bytes)
        bytes.length = true
    · simp only [hEnd, if_true]
      refine feedLoop_withParser _ t.toDisplay t.parser.endUpdate [] _ ?_
      have hWork := t.parser.endUpdate.work_le
        (t.parser.pendingEscape ++ (t.parser.synchronizedBuffer ++ bytes))
      exact Nat.lt_succ_of_le hWork
    · simp only [hEnd]
      rfl
  · rw [if_neg hUpdate, if_neg hUpdate]
    refine feedLoop_withParser _ t.toDisplay { t.parser with pendingEscape := [] } [] _ ?_
    have hWork := { t.parser with pendingEscape := [] }.work_le (t.parser.pendingEscape ++ bytes)
    refine Nat.lt_of_le_of_lt hWork ?_
    simp only [TerminalEngine.feedFuel, TerminalEngine.parser, List.length_nil]
    omega

end WaitAgent.Terminal
