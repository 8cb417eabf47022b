
/-!
# The terminal's data

Sizes, styles, colours and cells (`terminal/types.rs`), and the escape sequence
that selects a style.  Sizes are pairs of 16-bit numbers and carry their bounds;
rows and columns within a screen are plain numbers, and the operations that the
source does in 16 bits without saturation are checked where they are made.
-/

namespace WaitAgent.Terminal

/-- What stops an operation: an index or a slice outside its vector, or a 16-bit
result that does not fit. -/
inductive Fault where
  | index
  | slice
  | overflow
  deriving DecidableEq, Repr

/-- `u16` addition, multiplication and the like, given the exact result. -/
def u16 (n : Nat) : Except Fault Nat :=
  if n < 65536 then .ok n else .error .overflow

structure TerminalSize where
  rows : Nat
  cols : Nat
  pixelWidth : Nat := 0
  pixelHeight : Nat := 0
  rows_lt : rows < 65536 := by decide
  cols_lt : cols < 65536 := by decide
  deriving DecidableEq, Repr

inductive MouseReportingMode where
  | none
  | click
  | drag
  | anyMotion
  deriving DecidableEq, Repr

inductive MouseEncoding where
  | x10
  | utf8
  | sgr
  deriving DecidableEq, Repr

inductive ColorValue where
  | indexed (index : UInt8)
  | rgb (red green blue : UInt8)
  deriving DecidableEq, Repr

/-- `ColorValue::push_ansi_params`, as the parameters pushed. -/
def ColorValue.ansiParams (color : ColorValue) (foreground : Bool) : List String :=
  let selector := if foreground then "38" else "48"
  match color with
  | .indexed index => [selector, "5", toString index.toNat]
  | .rgb red green blue =>
      [selector, "2", toString red.toNat, toString green.toNat, toString blue.toNat]

structure TextStyle where
  bold : Bool := false
  dim : Bool := false
  italic : Bool := false
  underline : Bool := false
  blink : Bool := false
  inverse : Bool := false
  strikethrough : Bool := false
  foreground : Option ColorValue := none
  background : Option ColorValue := none
  deriving DecidableEq, Repr

/-- `TextStyle::default`. -/
def TextStyle.default : TextStyle := {}

/-- The parameters of the sequence that selects the style. -/
def TextStyle.ansiParams (style : TextStyle) : List String :=
  ["0"]
    ++ (if style.bold then ["1"] else [])
    ++ (if style.dim then ["2"] else [])
    ++ (if style.italic then ["3"] else [])
    ++ (if style.underline then ["4"] else [])
    ++ (if style.blink then ["5"] else [])
    ++ (if style.inverse then ["7"] else [])
    ++ (if style.strikethrough then ["9"] else [])
    ++ (style.foreground.elim [] fun color => color.ansiParams true)
    ++ (style.background.elim [] fun color => color.ansiParams false)

/-- `TextStyle::to_ansi`. -/
def TextStyle.toAnsi (style : TextStyle) : String :=
  if style = .default then
    "\x1b[0m"
  else
    "\x1b[" ++ ";".intercalate style.ansiParams ++ "m"

structure ScreenCell where
  ch : Char
  style : TextStyle
  deriving DecidableEq, Repr

structure SavedCursorState where
  row : Nat := 0
  col : Nat := 0
  style : TextStyle := .default
  valid : Bool := false
  deriving DecidableEq, Repr

/-- The second cell of a wide character. -/
def WIDE_CONTINUATION : Char := '\x00'

end WaitAgent.Terminal
