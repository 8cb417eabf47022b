import WaitAgent.Terminal.Sequences

/-!
# Styles that are read back

The sequence with which a style is written selects this style again, whatever
was selected before: it starts with a reset, and each attribute and colour that
the style has is one parameter, or three or five of them.
-/

namespace WaitAgent.Terminal

open Verified

open ScreenBuffer

/-! ## Parameters -/

theorem parseSgrSegment_toString {n : Nat} (h : n < 65536) :
    parseSgrSegment (toString n) = { code := n, subparams := [] } := by
  have hSplit : splitChar ':' (toString n) = [toString n] := by
    have hFields : ∀ field ∈ [toString n], ':' ∉ field.toList := by
      intro field hField
      rw [List.mem_singleton.mp hField]
      exact notMem_toString (by decide)
    have hJoined := splitChar_intercalate (List.cons_ne_nil _ _) hFields
    rwa [String.intercalate_singleton] at hJoined
  rw [parseSgrSegment, hSplit]
  dsimp only
  rw [parseU16_toString h]
  rfl

theorem byte_toNat (value : UInt8) : byte value.toNat = value := by
  have hLt := value.toNat_lt
  rw [byte, Nat.min_eq_left (by omega), UInt8.ofNat_toNat]

/-! ## The attributes -/

/-- The parameters of a colour after `38` or `48`. -/
def colorOperands (color : ColorValue) : List SgrSegment :=
  let operand (n : Nat) : SgrSegment := { code := n, subparams := [] }
  match color with
  | .indexed index => [operand 5, operand index.toNat]
  | .rgb red green blue =>
      [operand 2, operand red.toNat, operand green.toNat, operand blue.toNat]

theorem parseSgrSegment_color (color : ColorValue) (foreground : Bool) :
    (color.ansiParams foreground).map parseSgrSegment =
      { code := if foreground then 38 else 48, subparams := [] } :: colorOperands color := by
  have hOperand : ∀ value : UInt8, parseSgrSegment (toString value.toNat) =
      { code := value.toNat, subparams := [] } := by
    intro value
    have hLt := value.toNat_lt
    exact parseSgrSegment_toString (by omega)
  have hSelector : parseSgrSegment (if foreground then "38" else "48") =
      { code := if foreground then 38 else 48, subparams := [] } := by
    cases foreground <;> decide
  have hFive : parseSgrSegment "5" = { code := 5, subparams := [] } := by decide
  have hTwo : parseSgrSegment "2" = { code := 2, subparams := [] } := by decide
  cases color <;>
    simp only [ColorValue.ansiParams, colorOperands, List.map_cons, List.map_nil, hSelector, hFive,
      hTwo, hOperand]

def withColor (foreground : Bool) (style : TextStyle) (color : ColorValue) : TextStyle :=
  if foreground then { style with foreground := some color }
  else { style with background := some color }

/-- What reading one segment has to do for the sequences with which styles are
written. -/
structure ReadsStyles (turn : TextStyle → SgrSegment → List SgrSegment → TextStyle × Nat) :
    Prop where
  reset : ∀ style rest, turn style (parseSgrSegment "0") rest = (.default, 0)
  bold : ∀ style rest, turn style (parseSgrSegment "1") rest = ({ style with bold := true }, 0)
  dim : ∀ style rest, turn style (parseSgrSegment "2") rest = ({ style with dim := true }, 0)
  italic : ∀ style rest, turn style (parseSgrSegment "3") rest = ({ style with italic := true }, 0)
  underline : ∀ style rest,
    turn style (parseSgrSegment "4") rest = ({ style with underline := true }, 0)
  blink : ∀ style rest, turn style (parseSgrSegment "5") rest = ({ style with blink := true }, 0)
  inverse : ∀ style rest,
    turn style (parseSgrSegment "7") rest = ({ style with inverse := true }, 0)
  strikethrough : ∀ style rest,
    turn style (parseSgrSegment "9") rest = ({ style with strikethrough := true }, 0)
  color : ∀ style foreground color rest,
    turn style { code := if foreground then 38 else 48, subparams := [] }
        (colorOperands color ++ rest) =
      (withColor foreground style color, (colorOperands color).length)

section

variable {turn : TextStyle → SgrSegment → List SgrSegment → TextStyle × Nat}

/-- An attribute, which is one parameter where it is on. -/
theorem foldSegments_flag {param : String} (set : Bool → TextStyle → TextStyle)
    (hOn : ∀ style rest, turn style (parseSgrSegment param) rest = (set true style, 0))
    (hOff : ∀ style, set false style = style) (on : Bool) (style : TextStyle)
    (rest : List SgrSegment) :
    foldSegments turn 0 style ((if on then [param] else []).map parseSgrSegment ++ rest) =
      foldSegments turn 0 (set on style) rest := by
  cases on with
  | false =>
    rw [hOff]
    rfl
  | true =>
    change foldSegments turn 0 style (parseSgrSegment param :: rest) = _
    rw [foldSegments, hOn]

/-- Operands are passed over. -/
theorem foldSegments_skip (style : TextStyle) (operands rest : List SgrSegment) :
    foldSegments turn operands.length style (operands ++ rest) =
      foldSegments turn 0 style rest := by
  induction operands with
  | nil => rfl
  | cons operand operands ih =>
    rw [List.length_cons, List.cons_append, foldSegments]
    exact ih

/-- A colour, which is a selector and its operands where there is one. -/
theorem ReadsStyles.foldSegments_color (h : ReadsStyles turn) (foreground : Bool)
    (color : Option ColorValue) (style : TextStyle) (rest : List SgrSegment) :
    foldSegments turn 0 style
        ((color.elim [] fun color => color.ansiParams foreground).map parseSgrSegment ++ rest) =
      foldSegments turn 0 (color.elim style (withColor foreground style)) rest := by
  cases color with
  | none => rfl
  | some color =>
    rw [Option.elim_some, parseSgrSegment_color, List.cons_append, foldSegments, h.color]
    exact foldSegments_skip _ _ _

/-! ## Styles -/

/-- The parameters of a style select it. -/
theorem ReadsStyles.foldSegments_ansiParams (h : ReadsStyles turn) (style current : TextStyle) :
    foldSegments turn 0 current (style.ansiParams.map parseSgrSegment) = style := by
  have hReset : ∀ rest, foldSegments turn 0 current (parseSgrSegment "0" :: rest) =
      foldSegments turn 0 .default rest := by
    intro rest
    rw [foldSegments, h.reset]
  obtain ⟨bold, dim, italic, underline, blink, inverse, strikethrough, foreground, background⟩ :=
    style
  unfold TextStyle.ansiParams
  rw [← List.append_nil (List.map _ _)]
  simp only [List.map_append, List.append_assoc]
  -- in the order of the parameters
  rw [List.map_singleton, List.singleton_append, hReset,
    foldSegments_flag (fun on style => { style with bold := on || style.bold }) h.bold
      fun _ => rfl,
    foldSegments_flag (fun on style => { style with dim := on || style.dim }) h.dim
      fun _ => rfl,
    foldSegments_flag (fun on style => { style with italic := on || style.italic }) h.italic
      fun _ => rfl,
    foldSegments_flag (fun on style => { style with underline := on || style.underline })
      h.underline fun _ => rfl,
    foldSegments_flag (fun on style => { style with blink := on || style.blink }) h.blink
      fun _ => rfl,
    foldSegments_flag (fun on style => { style with inverse := on || style.inverse }) h.inverse
      fun _ => rfl,
    foldSegments_flag (fun on style => { style with strikethrough := on || style.strikethrough })
      h.strikethrough fun _ => rfl,
    h.foldSegments_color, h.foldSegments_color, foldSegments]
  cases foreground <;> cases background <;> simp [withColor, TextStyle.default]

end

/-! ## The two readers -/

theorem semicolonColor_operands (color : ColorValue) (rest : List SgrSegment) :
    semicolonColor (colorOperands color ++ rest) = some (color, (colorOperands color).length) := by
  cases color with
  | indexed index =>
    change some (ColorValue.indexed (byte index.toNat), 2) = _
    rw [byte_toNat]
    rfl
  | rgb red green blue =>
    change some (ColorValue.rgb (byte red.toNat) (byte green.toNat) (byte blue.toNat), 4) = _
    rw [byte_toNat, byte_toNat, byte_toNat]
    rfl

/-- The engine reads styles. -/
theorem readsStyles_applySegment : ReadsStyles applySegment where
  reset := fun _ _ => rfl
  bold := fun _ _ => rfl
  dim := fun _ _ => rfl
  italic := fun _ _ => rfl
  underline := fun _ _ => rfl
  blink := fun _ _ => rfl
  inverse := fun _ _ => rfl
  strikethrough := fun _ _ => rfl
  color := by
    intro style foreground color rest
    cases foreground <;>
      simp only [applySegment, colorOperand, List.isEmpty_nil, if_true,
        semicolonColor_operands] <;> rfl

theorem parseSgrColor_operands (color : ColorValue) (code : Nat) (rest : List SgrSegment) :
    parseSgrColor { code, subparams := [] } (colorOperands color ++ rest) =
      some (color, (colorOperands color).length) := by
  cases color with
  | indexed index =>
    change some (ColorValue.indexed (UInt8.ofNat index.toNat), 2) = _
    rw [UInt8.ofNat_toNat]
    rfl
  | rgb red green blue =>
    change some (ColorValue.rgb (UInt8.ofNat red.toNat) (UInt8.ofNat green.toNat)
      (UInt8.ofNat blue.toNat), 4) = _
    rw [UInt8.ofNat_toNat, UInt8.ofNat_toNat, UInt8.ofNat_toNat]
    rfl

/-- So does a client. -/
theorem readsStyles_applySgrSegment : ReadsStyles applySgrSegment where
  reset := fun _ _ => rfl
  bold := fun _ _ => rfl
  dim := fun _ _ => rfl
  italic := fun _ _ => rfl
  underline := fun _ _ => rfl
  blink := fun _ _ => rfl
  inverse := fun _ _ => rfl
  strikethrough := fun _ _ => rfl
  color := by
    intro style foreground color rest
    cases foreground <;> simp only [applySgrSegment, parseSgrColor_operands] <;> rfl

/-! ## Sequences -/

/-- The parameters as one text. -/
def TextStyle.ansiText (style : TextStyle) : String :=
  ";".intercalate style.ansiParams

theorem TextStyle.toAnsi_eq (style : TextStyle) : style.toAnsi = csiText style.ansiText 'm' := by
  unfold TextStyle.toAnsi
  split
  · rename_i hDefault
    subst hDefault
    decide
  · rfl

/-- The parameters are numbers. -/
theorem TextStyle.isDigit_ansiParams (style : TextStyle) :
    ∀ param ∈ style.ansiParams, ∀ c ∈ param.toList, c.isDigit = true := by
  have hFlag : ∀ (on : Bool) (flag : String), flag.toList.all Char.isDigit = true →
      ∀ param ∈ (if on then [flag] else []), ∀ c ∈ param.toList, c.isDigit = true := by
    intro on flag hDigits param hParam
    cases on with
    | false => cases hParam
    | true =>
      rw [if_pos rfl, List.mem_singleton] at hParam
      rw [hParam]
      exact List.all_eq_true.mp hDigits
  have hColor : ∀ (color : Option ColorValue) (foreground : Bool),
      ∀ param ∈ color.elim [] fun color => color.ansiParams foreground,
        ∀ c ∈ param.toList, c.isDigit = true := by
    intro color foreground param hParam
    have hSelector : ∀ c ∈ (if foreground then "38" else "48").toList, c.isDigit = true :=
      List.all_eq_true.mp (by cases foreground <;> decide)
    cases color with
    | none => cases hParam
    | some color =>
      cases color <;>
        simp only [Option.elim_some, ColorValue.ansiParams, List.mem_cons, List.not_mem_nil,
          or_false] at hParam <;>
        rcases hParam with rfl | rfl | hNumber
      · exact hSelector
      · exact List.all_eq_true.mp (by decide)
      · rw [hNumber]
        exact fun c hc => isDigit_of_mem_toString hc
      · exact hSelector
      · exact List.all_eq_true.mp (by decide)
      · rcases hNumber with rfl | rfl | rfl <;> exact fun c hc => isDigit_of_mem_toString hc
  unfold TextStyle.ansiParams
  simp only [List.forall_mem_append]
  refine ⟨⟨⟨⟨⟨⟨⟨⟨⟨?_, hFlag _ _ (by decide)⟩, hFlag _ _ (by decide)⟩, hFlag _ _ (by decide)⟩,
    hFlag _ _ (by decide)⟩, hFlag _ _ (by decide)⟩, hFlag _ _ (by decide)⟩, hFlag _ _ (by decide)⟩,
    hColor _ _⟩, hColor _ _⟩
  exact List.forall_mem_singleton.mpr (List.all_eq_true.mp (by decide))

theorem TextStyle.parseSgrSegments_ansiText (style : TextStyle) :
    parseSgrSegments style.ansiText = style.ansiParams.map parseSgrSegment := by
  have hDigits := style.isDigit_ansiParams
  have hReset : "0" ∈ style.ansiParams := by simp [TextStyle.ansiParams]
  have hText : style.ansiText ≠ "" := params_ne_empty hDigits hReset (by decide)
  unfold parseSgrSegments
  rw [if_neg hText, TextStyle.ansiText, splitChar_params hDigits (List.ne_nil_of_mem hReset)]

/-- What the sequence of a style does to a buffer. -/
theorem applySgr_ansiText (s : ScreenBuffer) (style : TextStyle) :
    s.applySgr (parseSgrSegments style.ansiText) = { s with currentStyle := style } := by
  rw [style.parseSgrSegments_ansiText, applySgr, if_neg,
    readsStyles_applySegment.foldSegments_ansiParams]
  simp [TextStyle.ansiParams]

/-- And what it does to the style of a client. -/
theorem applySgrSegments_ansiText (style current : TextStyle) :
    applySgrSegments current (parseSgrSegments style.ansiText) = style := by
  rw [style.parseSgrSegments_ansiText]
  exact readsStyles_applySgrSegment.foldSegments_ansiParams style current

end WaitAgent.Terminal
