import Mathlib.Data.List.Infix
import WaitAgent.Terminal.Trace

/-!
# Chunking does not matter

The bytes of a session arrive in pieces that no one chose: a frame can end
within an escape sequence, within a character, or anywhere in a synchronized
update.  The parser keeps the piece that it cannot read yet, and here it is
shown that nothing else of the division is left: feeding `a ++ b` is feeding
`a` and then `b`.

The parser's state is constrained (`Parser.Settled`): during an update nothing
else is pending and the buffered bytes neither end the update nor are too many;
outside of one nothing is buffered.
-/

namespace WaitAgent.Terminal

open Verified

/-! ## When an update ends -/

/-- The buffered bytes are too many, or the end of the update is among them. -/
def UpdateEnds (buffer : List UInt8) : Prop :=
  buffer.length > MAX_SYNCHRONIZED_BUFFER_BYTES ∨ SYNCHRONIZED_UPDATE_END <:+: buffer

theorem not_updateEnds_nil : ¬ UpdateEnds [] := by
  rintro (hLong | hEnd)
  · exact absurd hLong (Nat.not_lt_zero _)
  · exact absurd (List.infix_nil.mp hEnd) (by decide)

theorem UpdateEnds.append {buffer : List UInt8} (h : UpdateEnds buffer) (more : List UInt8) :
    UpdateEnds (buffer ++ more) := by
  rcases h with hLong | hEnd
  · left
    rw [List.length_append]
    omega
  · right
    exact hEnd.trans (List.infix_append_left ..)

/-- An end of the update that is not within the old bytes shows in the window
that is searched. -/
theorem updateEnd_in_window {old new : List UInt8}
    (hOld : ¬ SYNCHRONIZED_UPDATE_END <:+: old) :
    SYNCHRONIZED_UPDATE_END <:+: old ++ new ↔
      SYNCHRONIZED_UPDATE_END <:+: (old ++ new).drop (old.length - 7) := by
  constructor
  · intro h
    obtain ⟨before, after, hSplit⟩ := h
    have hDrop : (old ++ new).drop before.length = SYNCHRONIZED_UPDATE_END ++ after := by
      rw [← hSplit, List.append_assoc, List.drop_left]
    -- otherwise it would lie within the old bytes
    have hLate : old.length - 7 ≤ before.length := by
      by_contra hEarly
      apply hOld
      rw [List.drop_append_of_le_length (by omega)] at hDrop
      have hPrefix : SYNCHRONIZED_UPDATE_END <+: old.drop before.length := by
        refine List.prefix_of_prefix_length_le ⟨after, rfl⟩ ⟨new, hDrop⟩ ?_
        have hEight : SYNCHRONIZED_UPDATE_END.length = 8 := rfl
        rw [hEight, List.length_drop]
        omega
      exact hPrefix.isInfix.trans (List.drop_suffix _ _).isInfix
    have hWindow : SYNCHRONIZED_UPDATE_END <+:
        ((old ++ new).drop (old.length - 7)).drop (before.length - (old.length - 7)) := by
      rw [List.drop_drop, Nat.add_sub_of_le hLate, hDrop]
      exact List.prefix_append _ _
    exact hWindow.isInfix.trans (List.drop_suffix _ _).isInfix
  · exact fun h => h.trans (List.drop_suffix _ _).isInfix

/-- While the old bytes do not end the update, the search in the new ones is
exact. -/
theorem shouldFlush_append {old : List UInt8} (hOld : ¬ UpdateEnds old) (new : List UInt8) :
    shouldFlushSynchronizedBuffer (old ++ new) new.length = true ↔ UpdateEnds (old ++ new) := by
  have hStart : (old ++ new).length - (new.length + SYNCHRONIZED_UPDATE_END.length - 1) =
      old.length - 7 := by
    have hEight : SYNCHRONIZED_UPDATE_END.length = 8 := rfl
    rw [hEight, List.length_append]
    omega
  have hNotEnd : ¬ SYNCHRONIZED_UPDATE_END <:+: old := fun h => hOld (.inr h)
  unfold shouldFlushSynchronizedBuffer UpdateEnds
  rw [updateEnd_in_window hNotEnd]
  simp only [hStart, Bool.or_eq_true, decide_eq_true_eq, List.any_eq_true, List.mem_tails,
    List.isPrefixOf_iff_prefix]
  rw [List.infix_iff_prefix_suffix]
  exact or_congr_right (exists_congr fun tail => and_comm)

theorem shouldFlush_all (bytes : List UInt8) :
    shouldFlushSynchronizedBuffer bytes bytes.length = true ↔ UpdateEnds bytes :=
  shouldFlush_append not_updateEnds_nil bytes

/-! ## Plain text in pieces -/

namespace Parser

theorem flush_nil (p : Parser) : p.flush [] = p := rfl

theorem printed_nil (p : Parser) : p.printed [] = [] := rfl

theorem decoded_append (p : Parser) (x y : List UInt8) :
    p.decoded (x ++ y) = Decoded.prepend (p.decoded x).1 ((p.flush x).decoded y) := by
  unfold flush
  cases x with
  | nil => rfl
  | cons a x =>
    cases y with
    | nil => simp [decoded, Decoded.prepend]
    | cons b y =>
      change decodeStream (p.pendingUtf8 ++ (a :: x ++ b :: y)) = _
      rw [← List.append_assoc]
      exact decodeStream_append (b :: y) _ _ (Nat.le_refl _)

theorem flush_append (p : Parser) (x y : List UInt8) :
    (p.flush x).flush y = p.flush (x ++ y) := by
  simp only [flush, decoded_append, Decoded.prepend]

theorem printed_append (p : Parser) (x y : List UInt8) :
    p.printed (x ++ y) = p.printed x ++ (p.flush x).printed y := by
  simp only [printed, decoded_append, Decoded.prepend, List.map_append]

/-- One piece after another. -/
def andThen (r : Parser × List Action) (f : Parser → Parser × List Action) :
    Parser × List Action :=
  ((f r.1).1, r.2 ++ (f r.1).2)

/-- Plain bytes that wait to be printed can as well be printed at once. -/
theorem parse_flush :
    ∀ (n : Nat) (input : List UInt8), input.length ≤ n → ∀ (p : Parser) (plain : List UInt8),
      p.synchronizedUpdate = false →
      p.parse plain input = andThen (p.flush plain, p.printed plain) fun p => p.parse [] input := by
  intro n
  induction n with
  | zero =>
    intro input hLength p plain _
    rw [List.eq_nil_of_length_eq_zero (Nat.le_zero.mp hLength)]
    simp [parse_nil, andThen, flush_nil, printed_nil]
  | succ n ih =>
    intro input hLength p plain hUpdate
    have hUpdate' : (p.flush plain).synchronizedUpdate = false := hUpdate
    cases input with
    | nil => simp [parse_nil, andThen, flush_nil, printed_nil]
    | cons byte rest =>
      rw [List.length_cons] at hLength
      cases hLex : lex byte rest with
      | plain =>
        have hRest := ih rest (by omega)
        rw [parse_plain hUpdate hLex, hRest p _ hUpdate]
        dsimp only [andThen]
        rw [parse_plain hUpdate' hLex, hRest (p.flush plain) _ hUpdate', List.nil_append]
        simp only [andThen, flush_append, printed_append, List.append_assoc]
      | incomplete =>
        rw [parse_incomplete hUpdate hLex]
        dsimp only [andThen]
        rw [parse_incomplete hUpdate' hLex, printed_nil, List.append_nil]
        rfl
      | sequence action after =>
        rw [parse_sequence hUpdate hLex]
        dsimp only [andThen]
        rw [parse_sequence hUpdate' hLex]
        rfl

/-! ## The parser in pieces -/

/-- Nothing is pending, no update is on. -/
structure Fresh (p : Parser) : Prop where
  update : p.synchronizedUpdate = false
  escape : p.pendingEscape = []
  buffer : p.synchronizedBuffer = []

/-- What holds of the parser between two feeds. -/
structure Settled (p : Parser) : Prop where
  escape : p.synchronizedUpdate = true → p.pendingEscape = []
  unended : p.synchronizedUpdate = true → ¬ UpdateEnds p.synchronizedBuffer
  buffer : p.synchronizedUpdate = false → p.synchronizedBuffer = []

theorem Fresh.endUpdate (p : Parser) : p.endUpdate.Fresh :=
  ⟨rfl, rfl, rfl⟩

/-- The parser after an action that began an update. -/
structure Opened (p : Parser) : Prop where
  update : p.synchronizedUpdate = true
  escape : p.pendingEscape = []
  buffer : p.synchronizedBuffer = []

/-- Bytes after the beginning of an update are its bytes. -/
theorem Opened.parse {p : Parser} (h : p.Opened) (input : List UInt8) :
    (UpdateEnds input → p.parse [] input = p.endUpdate.parse [] input) ∧
      (¬ UpdateEnds input →
        p.parse [] input = ({ p with synchronizedBuffer := input }, [])) := by
  cases input with
  | nil =>
    refine ⟨fun hEnds => absurd hEnds not_updateEnds_nil, fun _ => ?_⟩
    rw [parse_nil, flush_nil, printed_nil, ← h.buffer]
  | cons byte rest =>
    have hFlush := shouldFlush_all (byte :: rest)
    rw [List.length_cons] at hFlush
    rw [parse_update h.update, h.buffer, h.escape, List.nil_append]
    refine ⟨fun hEnds => ?_, fun hNot => ?_⟩
    · rw [if_pos (hFlush.mpr hEnds), List.nil_append]
    · rw [if_neg fun hTrue => hNot (hFlush.mp hTrue)]

/-- The same for the bytes of a feed. -/
theorem Settled.feed_update {p : Parser} (h : p.Settled) (hUpdate : p.synchronizedUpdate = true)
    (bytes : List UInt8) :
    (UpdateEnds (p.synchronizedBuffer ++ bytes) →
        p.feed bytes = p.endUpdate.parse [] (p.synchronizedBuffer ++ bytes)) ∧
      (¬ UpdateEnds (p.synchronizedBuffer ++ bytes) →
        p.feed bytes =
          ({ p with synchronizedBuffer := p.synchronizedBuffer ++ bytes }, [])) := by
  have hFlush := shouldFlush_append (h.unended hUpdate) bytes
  unfold feed
  rw [if_pos hUpdate, h.escape hUpdate]
  refine ⟨fun hEnds => ?_, fun hNot => ?_⟩
  · simp only [hFlush.mpr hEnds, if_true]
    rfl
  · simp only [if_neg fun hTrue => hNot (hFlush.mp hTrue)]

theorem Settled.buffered {p : Parser} {buffer : List UInt8} (hEscape : p.pendingEscape = [])
    (hUpdate : p.synchronizedUpdate = true) (hNot : ¬ UpdateEnds buffer) :
    ({ p with synchronizedBuffer := buffer } : Parser).Settled :=
  ⟨fun _ => hEscape, fun _ => hNot, fun hOff => by rw [hUpdate] at hOff; cases hOff⟩

/-- After an action the parser is ready again, or an update has begun. -/
theorem Fresh.after {p : Parser} (h : p.Fresh) (plain : List UInt8) (action : Option Action) :
    ((p.flush plain).after action).Fresh ∨ ((p.flush plain).after action).Opened := by
  cases hOn : ((p.flush plain).after action).synchronizedUpdate with
  | false => exact .inl ⟨hOn, h.escape, h.buffer⟩
  | true => exact .inr ⟨hOn, h.escape, h.buffer⟩

theorem feed_of_no_update {p : Parser} (h : p.synchronizedUpdate = false) (bytes : List UInt8) :
    p.feed bytes = { p with pendingEscape := [] }.parse [] (p.pendingEscape ++ bytes) := by
  rw [feed, if_neg (Bool.eq_false_iff.mp h)]

/-- More input can be parsed at once or be fed later. -/
def Splits (p : Parser) (plain input more : List UInt8) : Prop :=
  (p.parse plain input).1.Settled ∧
    p.parse plain (input ++ more) = andThen (p.parse plain input) (·.feed more)

/-- In an update, the bytes are kept until it ends, and then parsed. -/
theorem Opened.splits {p : Parser} (h : p.Opened) {input more : List UInt8}
    (hFresh : ∀ p : Parser, p.Fresh → p.Splits [] input more) : p.Splits [] input more := by
  by_cases hEnds : UpdateEnds input
  · obtain ⟨hSettled, hAppend⟩ := hFresh p.endUpdate (.endUpdate p)
    unfold Splits
    rw [(h.parse input).1 hEnds, (h.parse (input ++ more)).1 (hEnds.append more)]
    exact ⟨hSettled, hAppend⟩
  · have hSettled := Settled.buffered h.escape h.update hEnds
    have hFeed := hSettled.feed_update h.update more
    unfold Splits
    rw [(h.parse input).2 hEnds]
    refine ⟨hSettled, ?_⟩
    by_cases hEnds' : UpdateEnds (input ++ more)
    · rw [(h.parse _).1 hEnds', andThen, hFeed.1 hEnds']
      rfl
    · rw [(h.parse _).2 hEnds', andThen, hFeed.2 hEnds']
      rfl

/-- Input that is kept as a whole is found again before the rest. -/
theorem Fresh.splits_kept {p : Parser} (h : p.Fresh) {plain kept : List UInt8}
    (hParse : p.parse plain kept =
      ({ p.flush plain with pendingEscape := kept }, p.printed plain)) (more : List UInt8) :
    p.Splits plain kept more := by
  have hOff : ({ p.flush plain with pendingEscape := kept } : Parser).synchronizedUpdate = false :=
    h.update
  have hAgain : ({ p.flush plain with pendingEscape := [] } : Parser) = p.flush plain := by
    simp only [flush, h.escape]
  unfold Splits
  rw [hParse]
  refine ⟨⟨fun hOn => ?_, fun hOn => ?_, fun _ => h.buffer⟩, ?_⟩
  · exact absurd (hOn.symm.trans hOff) (by decide)
  · exact absurd (hOn.symm.trans hOff) (by decide)
  · rw [parse_flush _ _ (Nat.le_refl _) p plain h.update]
    simp only [andThen, feed_of_no_update hOff, hAgain]

theorem Fresh.splits_nil {p : Parser} (h : p.Fresh) (more plain : List UInt8) :
    p.Splits plain [] more := by
  refine h.splits_kept ?_ more
  rw [parse_nil]
  simp only [flush, h.escape]

/-- Outside of an update, by the length of the input: a sequence that is
complete is found with or without the rest, one that is not is kept. -/
theorem Fresh.splits (more : List UInt8) :
    ∀ (n : Nat) (input : List UInt8), input.length ≤ n →
      ∀ (p : Parser) (plain : List UInt8), p.Fresh → p.Splits plain input more := by
  intro n
  induction n with
  | zero =>
    intro input hLength p plain h
    rw [List.eq_nil_of_length_eq_zero (Nat.le_zero.mp hLength)]
    exact h.splits_nil more plain
  | succ n ih =>
    intro input hLength p plain h
    cases input with
    | nil => exact h.splits_nil more plain
    | cons byte rest =>
      rw [List.length_cons] at hLength
      unfold Splits
      rw [List.cons_append]
      cases hLex : lex byte rest with
      | plain =>
        rw [parse_plain h.update hLex, parse_plain h.update (lex_plain hLex _)]
        exact ih rest (by omega) p _ h
      | incomplete =>
        refine h.splits_kept ?_ more
        rw [parse_incomplete h.update hLex, h.escape]
        rfl
      | sequence action after =>
        obtain ⟨hShorter, hMore⟩ := lex_sequence hLex
        have hAfter : ∀ q : Parser, q.Fresh → q.Splits [] after more := fun q hq =>
          ih after (by omega) q [] hq
        have hSplits : ((p.flush plain).after action).Splits [] after more := by
          rcases h.after plain action with hFresh | hOpened
          · exact hAfter _ hFresh
          · exact hOpened.splits hAfter
        rw [parse_sequence h.update hLex, parse_sequence h.update (hMore more), hSplits.2]
        refine ⟨hSplits.1, ?_⟩
        simp only [andThen, List.append_assoc]

/-- A feed leaves the parser settled, and can be made in two. -/
theorem Settled.feed_append {p : Parser} (h : p.Settled) (a b : List UInt8) :
    (p.feed a).1.Settled ∧ p.feed (a ++ b) = andThen (p.feed a) (·.feed b) := by
  cases hUpdate : p.synchronizedUpdate with
  | false =>
    have hFresh : ({ p with pendingEscape := [] } : Parser).Fresh :=
      ⟨hUpdate, rfl, h.buffer hUpdate⟩
    rw [feed_of_no_update hUpdate, feed_of_no_update hUpdate, ← List.append_assoc]
    exact Fresh.splits b _ _ (Nat.le_refl _) _ [] hFresh
  | true =>
    have hFeed := h.feed_update hUpdate
    by_cases hEnds : UpdateEnds (p.synchronizedBuffer ++ a)
    · have hEnds' := hEnds.append b
      rw [List.append_assoc] at hEnds'
      rw [(hFeed a).1 hEnds, (hFeed (a ++ b)).1 hEnds', ← List.append_assoc]
      exact Fresh.splits b _ _ (Nat.le_refl _) _ [] (.endUpdate p)
    · have hSettled := Settled.buffered (h.escape hUpdate) hUpdate hEnds
      have hFeed' := hSettled.feed_update hUpdate b
      rw [(hFeed a).2 hEnds]
      refine ⟨hSettled, ?_⟩
      by_cases hEnds' : UpdateEnds (p.synchronizedBuffer ++ (a ++ b))
      · rw [(hFeed _).1 hEnds', andThen, hFeed'.1 (by rwa [List.append_assoc]),
          ← List.append_assoc]
        rfl
      · rw [(hFeed _).2 hEnds', andThen, hFeed'.2 (by rwa [List.append_assoc]),
          ← List.append_assoc]
        rfl

end Parser

/-! ## The engine in pieces -/

theorem resume_eq_ok {p : Parser} {x : Except Fault (Display × List UInt8)} {t : TerminalEngine}
    {replies : List UInt8} (h : resume p x = .ok (t, replies)) : t.parser = p := by
  cases x with
  | error fault => cases h
  | ok r =>
    cases h
    rfl

theorem step_settled {t t' : TerminalEngine} {e : EngineStep} (h : t.parser.Settled)
    (hStep : t.step e = .ok t') : t'.parser.Settled := by
  cases e with
  | resize size =>
    cases hStep
    exact h
  | feed bytes =>
    rw [TerminalEngine.step, feed_eq] at hStep
    cases hFed : resume (t.parser.feed bytes).1
        (t.toDisplay.perform (t.parser.feed bytes).2) with
    | error fault =>
      rw [hFed] at hStep
      cases hStep
    | ok r =>
      rw [hFed] at hStep
      cases hStep
      rw [resume_eq_ok hFed]
      exact (h.feed_append bytes []).1

theorem steps_settled (es : List EngineStep) :
    ∀ t t' : TerminalEngine, t.parser.Settled → t.steps es = .ok t' → t'.parser.Settled := by
  induction es with
  | nil =>
    intro t t' h hSteps
    cases hSteps
    exact h
  | cons e es ih =>
    intro t t' h hSteps
    obtain ⟨next, hStep, hRest⟩ := bind_eq_ok.mp hSteps
    exact ih next t' (step_settled h hStep) hRest

/-- In every engine that feeds and resizes lead to, feeding `a ++ b` is feeding
`a` and then `b`: the same engine, the same replies, and the same fault if there
is one. -/
theorem feed_in_pieces (size : TerminalSize) (es : List EngineStep) (t : TerminalEngine)
    (hReached : (TerminalEngine.new size).steps es = .ok t) (a b : List UInt8) :
    t.feedAndCollectReplies (a ++ b) = (do
      let first ← t.feedAndCollectReplies a
      let second ← first.1.feedAndCollectReplies b
      return (second.1, first.2 ++ second.2)) := by
  have hNew : (TerminalEngine.new size).parser.Settled :=
    ⟨nofun, nofun, fun _ => rfl⟩
  have hSettled := steps_settled es _ t hNew hReached
  change _ = collect (t.feedAndCollectReplies a) fun t => t.feedAndCollectReplies b
  rw [feed_eq, (hSettled.feed_append a b).2]
  dsimp only [Parser.andThen]
  rw [Display.perform_append]
  refine (collect_resume (fun d => ?_) (feed_eq t a)).symm
  exact feed_eq (d.withParser (t.parser.feed a).1) b

/-- A split within a wide character of a synchronized update. -/
theorem feed_in_pieces_update :
    (TerminalEngine.new { rows := 1, cols := 4 }).feedAndCollectReplies
        ([0x1b, 0x5b, 0x3f, 0x32, 0x30, 0x32, 0x36, 0x68, 0xe4, 0xbd] ++
          [0xa0, 0x1b, 0x5b, 0x3f, 0x32, 0x30, 0x32, 0x36, 0x6c]) = (do
      let first ← (TerminalEngine.new { rows := 1, cols := 4 }).feedAndCollectReplies
        [0x1b, 0x5b, 0x3f, 0x32, 0x30, 0x32, 0x36, 0x68, 0xe4, 0xbd]
      let second ← first.1.feedAndCollectReplies
        [0xa0, 0x1b, 0x5b, 0x3f, 0x32, 0x30, 0x32, 0x36, 0x6c]
      return (second.1, first.2 ++ second.2)) :=
  feed_in_pieces { rows := 1, cols := 4 } [] _ rfl _ _

end WaitAgent.Terminal
