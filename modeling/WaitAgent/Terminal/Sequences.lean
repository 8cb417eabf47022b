import WaitAgent.Terminal.Chunking

/-!
# Input that is read as a whole

What a parser with nothing pending makes of a complete piece of input: a control
byte, a control sequence, or text.
-/

namespace WaitAgent.Terminal

open Verified

variable {params : List String} {byte : UInt8} {p : Parser} {c : Char}

theorem Parser.feed_nil (hEscape : p.pendingEscape = []) (hIdle : p.synchronizedUpdate = false) :
    p.feed [] = (p, []) := by
  have hSelf : ({ p with pendingEscape := [] } : Parser) = p := by rw [← hEscape]
  rw [Parser.feed_of_no_update hIdle, hSelf, hEscape, List.nil_append, Parser.parse_nil,
    Parser.flush_nil, Parser.printed_nil]

/-- A sequence with its end, that does not begin an update, is read before the rest; an
unfinished character before it stays. -/
theorem Parser.feed_sequence (hEscape : p.pendingEscape = []) (hIdle : p.synchronizedUpdate = false)
    {bytes rest : List UInt8} {action : Action}
    (hLex : lex byte bytes = .sequence (some action) rest)
    (hUpdate : action.synchronized false = false) :
    p.feed (byte :: bytes) = ((p.feed rest).1, action :: (p.feed rest).2) := by
  have hAfter : p.after (some action) = p := by
    have hSame : action.synchronized p.synchronizedUpdate = p.synchronizedUpdate := by
      rw [hIdle, hUpdate]
    rw [Parser.after, Option.elim_some, hSame]
  have hSelf : ({ p with pendingEscape := [] } : Parser) = p := by rw [← hEscape]
  rw [Parser.feed_of_no_update hIdle, Parser.feed_of_no_update hIdle, hSelf, hEscape,
    List.nil_append, List.nil_append, Parser.parse_sequence hIdle hLex, Parser.flush_nil, hAfter,
    Parser.printed_nil]
  simp

/-- A byte of the parameters of a control sequence. -/
def isParam (byte : UInt8) : Bool :=
  !decide (0x40 ≤ byte ∧ byte ≤ 0x7e)

theorem scanCsi_params {params : List UInt8} (hParams : ∀ byte ∈ params, isParam byte = true)
    {finalByte : UInt8} (hFinal : isParam finalByte = false) (rest : List UInt8) :
    scanCsi (params ++ finalByte :: rest) = some (params, finalByte, rest) := by
  induction params with
  | nil =>
    rw [List.nil_append, scanCsi, if_pos]
    simpa [isParam] using hFinal
  | cons byte params ih =>
    have hByte := hParams byte List.mem_cons_self
    rw [List.cons_append, scanCsi, if_neg, ih fun b hb => hParams b (List.mem_cons_of_mem _ hb)]
    · rfl
    · simpa only [isParam, Bool.not_eq_true', decide_eq_false_iff_not] using hByte

theorem lex_csi {params : List UInt8} (hParams : ∀ byte ∈ params, isParam byte = true)
    {finalByte : UInt8} (hFinal : isParam finalByte = false) (rest : List UInt8) :
    lex 0x1b (0x5b :: (params ++ finalByte :: rest)) =
      .sequence (some (.csi params finalByte)) rest := by
  change lexEscape (0x5b :: (params ++ finalByte :: rest)) = _
  simp only [lexEscape, if_true, scanCsi_params hParams hFinal]

/-! ## Sequences as texts -/

theorem bytesOf_append (a b : String) : bytesOf (a ++ b) = bytesOf a ++ bytesOf b := by
  simp [bytesOf, utf8Bytes]

theorem fromUtf8Lossy_bytesOf (text : String) : fromUtf8Lossy (bytesOf text) = text := by
  unfold fromUtf8Lossy bytesOf
  rw [decodeStream_utf8Bytes]
  simp

theorem utf8EncodeChar_ascii (h : c.toNat ≤ 0x7f) :
    String.utf8EncodeChar c = [UInt8.ofNat c.toNat] :=
  if_pos h

/-- The parameters of control sequences are digits and marks. -/
def IsParams (params : String) : Prop :=
  ∀ c ∈ params.toList, c.toNat < 0x40

instance (params : String) : Decidable (IsParams params) :=
  List.decidableBAll (fun c : Char => c.toNat < 0x40) params.toList

theorem IsParams.bytesOf {params : String} (h : IsParams params) :
    ∀ byte ∈ bytesOf params, isParam byte = true := by
  intro byte hByte
  obtain ⟨c, hc, hIn⟩ := List.mem_flatMap.mp hByte
  have hLow := h c hc
  rw [utf8EncodeChar_ascii (by omega), List.mem_singleton] at hIn
  subst hIn
  simp only [isParam, Bool.not_eq_true', decide_eq_false_iff_not, UInt8.le_iff_toNat_le,
    toNat_ofNat_of_lt (show c.toNat < 256 by omega)]
  exact fun hRange => absurd hRange.1 (Nat.not_le.mpr hLow)

/-- A control sequence, as a text. -/
def csiText (params : String) (finalByte : Char) : String :=
  "\x1b[" ++ params ++ String.singleton finalByte

theorem Parser.feed_csiText_append (hEscape : p.pendingEscape = [])
    (hIdle : p.synchronizedUpdate = false) {params : String} (hParams : IsParams params)
    {finalByte : Char} (hFinal : 0x40 ≤ finalByte.toNat ∧ finalByte.toNat ≤ 0x7e)
    (hUpdate : (Action.csi (bytesOf params) (UInt8.ofNat finalByte.toNat)).synchronized false
      = false) (rest : List UInt8) :
    p.feed (bytesOf (csiText params finalByte) ++ rest) =
      ((p.feed rest).1,
        .csi (bytesOf params) (UInt8.ofNat finalByte.toNat) :: (p.feed rest).2) := by
  have hStart : bytesOf "\x1b[" = [0x1b, 0x5b] := by decide
  have hByte : bytesOf (String.singleton finalByte) = [UInt8.ofNat finalByte.toNat] := by
    unfold bytesOf utf8Bytes
    rw [String.toList_singleton, List.flatMap_singleton, utf8EncodeChar_ascii (by omega)]
  have hEnd : isParam (UInt8.ofNat finalByte.toNat) = false := by
    simp only [isParam, Bool.not_eq_false', decide_eq_true_eq, UInt8.le_iff_toNat_le,
      toNat_ofNat_of_lt (show finalByte.toNat < 256 by omega)]
    exact hFinal
  rw [csiText, bytesOf_append, bytesOf_append, hStart, hByte, List.append_assoc, List.append_assoc]
  exact Parser.feed_sequence hEscape hIdle (lex_csi hParams.bytesOf hEnd rest) hUpdate

theorem Parser.feed_csiText (hEscape : p.pendingEscape = [])
    (hIdle : p.synchronizedUpdate = false) {params : String} (hParams : IsParams params)
    {finalByte : Char} (hFinal : 0x40 ≤ finalByte.toNat ∧ finalByte.toNat ≤ 0x7e)
    (hUpdate : (Action.csi (bytesOf params) (UInt8.ofNat finalByte.toNat)).synchronized false
      = false) :
    p.feed (bytesOf (csiText params finalByte)) =
      (p, [.csi (bytesOf params) (UInt8.ofNat finalByte.toNat)]) := by
  have hFeed := Parser.feed_csiText_append hEscape hIdle hParams hFinal hUpdate []
  rwa [List.append_nil, Parser.feed_nil hEscape hIdle] at hFeed

/-- Without a question mark, a control sequence goes to the display alone. -/
theorem synchronized_public {params : String} (hPublic : stripPrefix "?" params = none)
    (finalByte : UInt8) (on : Bool) :
    (Action.csi (bytesOf params) finalByte).synchronized on = on := by
  simp only [Action.synchronized, fromUtf8Lossy_bytesOf, hPublic]

theorem act_csi_public (d : Display) (params : String) (finalByte : Char)
    (hPublic : stripPrefix "?" params = none) (hFinal : finalByte.toNat ≤ 0x7e) :
    d.act (.csi (bytesOf params) (UInt8.ofNat finalByte.toNat)) =
      d.handleCsi params finalByte := by
  have hChar : Char.ofNat (UInt8.ofNat finalByte.toNat).toNat = finalByte := by
    rw [toNat_ofNat_of_lt (by omega), Char.ofNat_toNat]
  simp only [Display.act, Display.control, fromUtf8Lossy_bytesOf, hPublic, hChar]

/-! ## Numbers as parameters -/

section

variable (hDigits : ∀ param ∈ params, ∀ c ∈ param.toList, c.isDigit = true)

include hDigits

/-- Parameters that are numbers, with semicolons between them. -/
theorem mem_params (hc : c ∈ (";".intercalate params).toList) : c = ';' ∨ c.isDigit = true := by
  by_cases hSeparator : c = ';'
  · exact .inl hSeparator
  · rw [String.toList_intercalate] at hc
    obtain ⟨part, hPart, hIn⟩ := (mem_intercalate_of_ne hSeparator _).mp hc
    obtain ⟨param, hParam, rfl⟩ := List.mem_map.mp hPart
    exact .inr (hDigits param hParam c hIn)

theorem isParams_intercalate : IsParams (";".intercalate params) := by
  intro c hc
  rcases mem_params hDigits hc with rfl | hDigit
  · decide
  · simp only [Char.isDigit, Bool.and_eq_true, decide_eq_true_eq] at hDigit
    have hLe : c.toNat ≤ 57 := hDigit.2
    omega

theorem stripPrefix_params : stripPrefix "?" (";".intercalate params) = none := by
  unfold stripPrefix
  refine if_neg fun hMark => ?_
  have hFirst : ['?'] <+: (";".intercalate params).toList := List.isPrefixOf_iff_prefix.mp hMark
  rcases mem_params hDigits (hFirst.subset List.mem_cons_self) with hSeparator | hDigit
  · exact absurd hSeparator (by decide)
  · exact absurd hDigit (by decide)

theorem splitChar_params (hNe : params ≠ []) :
    splitChar ';' (";".intercalate params) = params := by
  refine splitChar_intercalate hNe fun param hParam hMem => ?_
  exact absurd (hDigits param hParam ';' hMem) (by decide)

theorem params_ne_empty {param : String} (hParam : param ∈ params) (hNonempty : param ≠ "") :
    ";".intercalate params ≠ "" := by
  intro hEmpty
  have hSplit := splitChar_params hDigits (List.ne_nil_of_mem hParam)
  have hOne : splitChar ';' "" = [""] := by decide
  rw [hEmpty, hOne] at hSplit
  rw [← hSplit] at hParam
  exact hNonempty (List.mem_singleton.mp hParam)

end

end WaitAgent.Terminal
