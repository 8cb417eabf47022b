import WaitAgent.Terminal.Screen

/-!
# The terminal engine

`TerminalEngine` of `terminal/engine.rs`: what a viewer feeds the bytes of a
session into.  `Display` holds everything that is shown or that decides how to
show; the engine adds what its parser keeps from one feed to the next, an
unfinished escape sequence, an unfinished character, and the bytes of a
synchronized update.

The body of the feeding loop is cut into three: `lex` finds what stands at the
front of the input, `act` does what it asks for, and `feedLoop` goes through the
input with both.
-/

namespace WaitAgent.Terminal

open Verified

def MAX_SYNCHRONIZED_BUFFER_BYTES : Nat := 256 * 1024

/-- The bytes of a text. -/
def bytesOf (text : String) : List UInt8 :=
  utf8Bytes text.toList

/-- `ESC [ ? 2 0 2 6 l`. -/
def SYNCHRONIZED_UPDATE_END : List UInt8 :=
  [0x1b, 0x5b, 0x3f, 0x32, 0x30, 0x32, 0x36, 0x6c]

inductive CharacterSet where
  | ascii
  | decGraphics
  deriving DecidableEq, Repr

structure CharsetState where
  g0 : CharacterSet := .ascii
  g1 : CharacterSet := .ascii
  useG1 : Bool := false
  deriving DecidableEq, Repr

/-- The screens and the modes. -/
structure Display where
  normal : ScreenBuffer
  alternate : ScreenBuffer
  alternateScreenActive : Bool := false
  applicationCursorKeys : Bool := false
  cursorVisible : Bool := true
  autowrap : Bool := true
  originMode : Bool := false
  insertMode : Bool := false
  bracketedPaste : Bool := false
  mouseReporting : MouseReportingMode := .none
  mouseEncoding : MouseEncoding := .x10
  charset : CharsetState := {}
  savedCharset : Option CharsetState := none
  windowTitle : Option String := none
  osc52Queue : List String := []
  deriving DecidableEq, Repr

structure TerminalEngine extends Display where
  pendingEscape : List UInt8 := []
  pendingUtf8 : List UInt8 := []
  synchronizedUpdate : Bool := false
  synchronizedBuffer : List UInt8 := []
  deriving DecidableEq, Repr

/-- What the bytes can ask for. -/
inductive Action where
  | print (ch : Char)
  | shift (useG1 : Bool)
  | lineFeed
  | carriageReturn
  | backspace
  | tab
  | csi (params : List UInt8) (finalByte : UInt8)
  | osc (payload : List UInt8)
  | designateCharset (g0 : Bool) (code : UInt8)
  | saveCursor
  | restoreCursor
  | reset
  | reverseIndex
  deriving DecidableEq, Repr

/-- One thing after another, with the replies in order. -/
def collect {σ τ : Type} (x : Except Fault (σ × List UInt8))
    (f : σ → Except Fault (τ × List UInt8)) : Except Fault (τ × List UInt8) := do
  let r ← x
  let r' ← f r.1
  return (r'.1, r.2 ++ r'.2)

/-! ## The display -/

namespace Display

variable (d : Display)

def new (size : TerminalSize) : Display where
  normal := .new size
  alternate := .new size

def resize (size : TerminalSize) : Display :=
  { d with normal := d.normal.resize size, alternate := d.alternate.resize size }

def activeBuffer : ScreenBuffer :=
  if d.alternateScreenActive then d.alternate else d.normal

def setActiveBuffer (s : ScreenBuffer) : Display :=
  if d.alternateScreenActive then { d with alternate := s } else { d with normal := s }

/-- An operation on `active_buffer_mut`. -/
def onActive (f : ScreenBuffer → Except Fault ScreenBuffer) : Except Fault Display := do
  let s ← f d.activeBuffer
  return d.setActiveBuffer s

def writeModes : WriteModes :=
  { autowrap := d.autowrap, insert := d.insertMode }

def activeCharset : CharacterSet :=
  if d.charset.useG1 then d.charset.g1 else d.charset.g0

def designateCharset (g0 : Bool) (code : UInt8) : Display :=
  let charset := if code = 0x30 then CharacterSet.decGraphics else .ascii
  if g0 then
    { d with charset := { d.charset with g0 := charset } }
  else
    { d with charset := { d.charset with g1 := charset } }

def saveCursor : Display :=
  { d.setActiveBuffer d.activeBuffer.saveCursor with savedCharset := some d.charset }

def restoreCursor : Display :=
  { d.setActiveBuffer d.activeBuffer.restoreCursor with
    charset := d.savedCharset.getD d.charset }

/-- RIS; the scrollback, the title and the clipboard queue are kept. -/
def reset : Display :=
  { normal := d.normal.reset
    alternate := d.alternate.reset
    windowTitle := d.windowTitle
    osc52Queue := d.osc52Queue }

def setAlternateScreen (active : Bool) (mode : Nat) : Except Fault Display :=
  if active = d.alternateScreenActive then
    .ok d
  else if active then
    let d := if mode = 1048 ∨ mode = 1049 then d.saveCursor else d
    .ok { d with alternateScreenActive := true }
  else do
    let d := { d with alternateScreenActive := false }
    let d := if mode = 1048 ∨ mode = 1049 then d.restoreCursor else d
    if mode = 1047 then
      let alternate ← d.alternate.clearScreen 2
      return { d with alternate }
    else
      return d

/-- `str::split_once` at the first `;`. -/
def splitOnce (text : String) : Option (String × String) :=
  match text.toList.span (· ≠ ';') with
  | (kind, _ :: value) => some (String.ofList kind, String.ofList value)
  | (_, []) => none

def handleOsc (payload : List UInt8) : Display × List UInt8 :=
  let text := fromUtf8Lossy payload
  match splitOnce text with
  | none => (d, [])
  | some (kind, value) =>
      if kind = "52" then
        ({ d with osc52Queue := d.osc52Queue ++ [text] }, [])
      else if (kind = "0" ∨ kind = "2") ∧ trim value ≠ "" then
        ({ d with windowTitle := some value }, [])
      else if value = "?" then
        if kind = "10" then
          (d, bytesOf "\x1b]10;rgb:ffff/ffff/ffff\x1b\\")
        else if kind = "11" then
          (d, bytesOf "\x1b]11;rgb:0000/0000/0000\x1b\\")
        else
          (d, [])
      else
        (d, [])

def handlePublicMode (numbers : List Nat) (finalByte : Char) : Display :=
  numbers.foldl
    (fun d mode => if mode = 4 then { d with insertMode := finalByte == 'h' } else d) d

/-- `handle_csi` without the private modes: an operation on the active buffer
or the modes, and the reply. -/
def handleCsi (params : String) (finalByte : Char) : Except Fault (Display × List UInt8) :=
  let numbers := parseCsiNumbers params
  let quiet (x : Except Fault Display) : Except Fault (Display × List UInt8) :=
    x.map fun d => (d, [])
  let move (f : ScreenBuffer → ScreenBuffer) := quiet (d.onActive fun s => .ok (f s))
  let change (f : ScreenBuffer → Except Fault ScreenBuffer) := quiet (d.onActive f)
  match finalByte with
  | 'A' => move (·.moveCursorRelative (-(firstOr numbers 1 : Int)) 0)
  | 'B' => move (·.moveCursorRelative (firstOr numbers 1) 0)
  | 'C' => move (·.moveCursorRelative 0 (firstOr numbers 1))
  | 'D' => move (·.moveCursorRelative 0 (-(firstOr numbers 1 : Int)))
  | 'E' => move fun s => (s.moveCursorRelative (firstOr numbers 1) 0).carriageReturn
  | 'F' => move fun s => (s.moveCursorRelative (-(firstOr numbers 1 : Int)) 0).carriageReturn
  | 'G' | '\x60' => move (·.moveCursorCol (firstOr numbers 1 - 1))
  | 'd' => move (·.moveCursorRow (firstOr numbers 1 - 1) d.originMode)
  | 'H' | 'f' =>
      move (·.moveCursorTo (firstOr numbers 1 - 1) (secondOr numbers 1 - 1) d.originMode)
  | 'J' => change (·.clearScreen (firstOr numbers 0))
  | 'K' => change (·.clearLine (firstOr numbers 0))
  | 'L' => change (·.insertLines (firstOr numbers 1))
  | 'M' => change (·.deleteLines (firstOr numbers 1))
  | 'P' => change (·.deleteChars (firstOr numbers 1))
  | '@' => change (·.insertChars (firstOr numbers 1))
  | 'X' => change (·.eraseChars (firstOr numbers 1))
  | 'b' => change (·.repeatLastChar (firstOr numbers 1) d.writeModes)
  | 'S' => change (·.scrollUpInRegion (firstOr numbers 1))
  | 'T' =>
      -- `CSI > T` is a query about title modes
      if params.toList.head? = some '>' then .ok (d, [])
      else change (·.scrollDownInRegion (firstOr numbers 1))
  | 'r' =>
      if numbers.isEmpty then
        move (·.resetScrollRegion d.originMode)
      else
        move (·.setScrollRegion (firstOr numbers 1 - 1)
          (secondOr numbers d.activeBuffer.size.rows - 1) d.originMode)
  | 'c' =>
      if numbers = [] ∨ numbers = [0] then .ok (d, bytesOf "\x1b[?61;1;21;22c") else .ok (d, [])
  | 'n' =>
      if numbers = [6] then
        let row := min (d.activeBuffer.cursorRow + 1) 65535
        let col := min (d.activeBuffer.cursorCol + 1) 65535
        .ok (d, bytesOf ("\x1b[" ++ toString row ++ ";" ++ toString col ++ "R"))
      else
        .ok (d, [])
  | 'm' => move (·.applySgr (parseSgrSegments params))
  | 's' => if numbers.isEmpty then .ok (d.saveCursor, []) else .ok (d, [])
  | 'u' => if numbers.isEmpty then .ok (d.restoreCursor, []) else .ok (d, [])
  | 'h' | 'l' => .ok (d.handlePublicMode numbers finalByte, [])
  | _ => .ok (d, [])

/-- One turn of `handle_private_mode`, but for the synchronized update, which is
the parser's. -/
def setPrivateMode (mode : Nat) (enabled : Bool) : Except Fault Display :=
  if mode = 1 then .ok { d with applicationCursorKeys := enabled }
  else if mode = 6 then .ok { d with originMode := enabled }
  else if mode = 7 then .ok { d with autowrap := enabled }
  else if mode = 25 then .ok { d with cursorVisible := enabled }
  else if mode = 47 ∨ mode = 1047 ∨ mode = 1048 ∨ mode = 1049 then
    d.setAlternateScreen enabled mode
  else if mode = 1000 then .ok { d with mouseReporting := if enabled then .click else .none }
  else if mode = 1002 then .ok { d with mouseReporting := if enabled then .drag else .none }
  else if mode = 1003 then .ok { d with mouseReporting := if enabled then .anyMotion else .none }
  else if mode = 1006 then .ok { d with mouseEncoding := if enabled then .sgr else .x10 }
  else if mode = 1015 then .ok { d with mouseEncoding := if enabled then .utf8 else .x10 }
  else if mode = 2004 then .ok { d with bracketedPaste := enabled }
  else .ok d

/-- A character of plain text, put into the active buffer. -/
def print (ch : Char) : Except Fault Display :=
  let ch := if d.activeCharset = .decGraphics then translateDecGraphics ch else ch
  d.onActive (·.putChar ch d.writeModes)

/-- The part that the display has in a control sequence. -/
def control (params : List UInt8) (finalByte : Char) : Except Fault (Display × List UInt8) :=
  let paramsText := fromUtf8Lossy params
  match stripPrefix "?" paramsText with
  | some privateParams =>
      if finalByte = 'h' ∨ finalByte = 'l' then
        ((parseCsiNumbers privateParams).foldlM
          (fun (d : Display) mode => setPrivateMode d mode (finalByte == 'h')) d).map
          fun d => (d, [])
      else
        .ok (d, [])
  | none => d.handleCsi paramsText finalByte

/-- What the display does for an action, with its replies. -/
def act (action : Action) : Except Fault (Display × List UInt8) :=
  let quiet (x : Except Fault Display) : Except Fault (Display × List UInt8) :=
    x.map fun d => (d, [])
  match action with
  | .print ch => quiet (d.print ch)
  | .shift useG1 => .ok ({ d with charset := { d.charset with useG1 } }, [])
  | .lineFeed => quiet (d.onActive (·.lineFeed))
  | .carriageReturn => quiet (d.onActive fun s => .ok s.carriageReturn)
  | .backspace => quiet (d.onActive fun s => .ok s.backspace)
  | .tab => quiet (d.onActive (·.tab))
  | .csi params finalByte => d.control params (Char.ofNat finalByte.toNat)
  | .osc payload => .ok (d.handleOsc payload)
  | .designateCharset g0 code => .ok (d.designateCharset g0 code, [])
  | .saveCursor => .ok (d.saveCursor, [])
  | .restoreCursor => .ok (d.restoreCursor, [])
  | .reset => .ok (d.reset, [])
  | .reverseIndex => quiet (d.onActive (·.reverseIndex))

end Display

/-! ## The front of the input -/

/-- The first byte of the input and what follows decide what comes next. -/
inductive Lexed where
  /-- the byte is plain text -/
  | plain
  /-- an escape sequence begins that the input does not finish -/
  | incomplete
  /-- a sequence with its action, if it has one, and the input after it -/
  | sequence (action : Option Action) (rest : List UInt8)
  deriving DecidableEq, Repr

/-- The scan of `consume_csi`: parameters, final byte and what follows. -/
def scanCsi : List UInt8 → Option (List UInt8 × UInt8 × List UInt8)
  | [] => none
  | byte :: rest =>
      if 0x40 ≤ byte ∧ byte ≤ 0x7e then
        some ([], byte, rest)
      else
        (scanCsi rest).map fun (params, finalByte, after) => (byte :: params, finalByte, after)

/-- The scan of `consume_osc`: the payload, up to BEL or `ESC \`, and what follows. -/
def scanOsc : List UInt8 → Option (List UInt8 × List UInt8)
  | [] => none
  | byte :: rest =>
      if byte = 0x07 then
        some ([], rest)
      else if byte = 0x1b ∧ rest.head? = some 0x5c then
        some ([], rest.tail)
      else
        (scanOsc rest).map fun (payload, after) => (byte :: payload, after)

/-- After an escape byte. -/
def lexEscape : List UInt8 → Lexed
  | [] => .incomplete
  | byte :: rest =>
      if byte = 0x5b then
        match scanCsi rest with
        | some (params, finalByte, after) => .sequence (some (.csi params finalByte)) after
        | none => .incomplete
      else if byte = 0x5d then
        match scanOsc rest with
        | some (payload, after) => .sequence (some (.osc payload)) after
        | none => .incomplete
      else if byte = 0x28 ∨ byte = 0x29 then
        match rest with
        | [] => .incomplete
        | code :: after => .sequence (some (.designateCharset (byte == 0x28) code)) after
      else if byte = 0x37 then .sequence (some .saveCursor) rest
      else if byte = 0x38 then .sequence (some .restoreCursor) rest
      else if byte = 0x63 then .sequence (some .reset) rest
      else if byte = 0x4d then .sequence (some .reverseIndex) rest
      else .sequence none rest

def lex (byte : UInt8) (rest : List UInt8) : Lexed :=
  if byte = 0x1b then lexEscape rest
  else if byte = 0x0e then .sequence (some (.shift true)) rest
  else if byte = 0x0f then .sequence (some (.shift false)) rest
  else if byte = 0x0a then .sequence (some .lineFeed) rest
  else if byte = 0x0d then .sequence (some .carriageReturn) rest
  else if byte = 0x07 then .sequence none rest
  else if byte = 0x08 then .sequence (some .backspace) rest
  else if byte = 0x09 then .sequence (some .tab) rest
  else .plain

/-- Should the synchronized update be applied?  It is too long, or its end is
in the part that was just appended (or reaches into it). -/
def shouldFlushSynchronizedBuffer (buffer : List UInt8) (appendedLen : Nat) : Bool :=
  let patternLen := SYNCHRONIZED_UPDATE_END.length
  let start := buffer.length - (appendedLen + patternLen - 1)
  buffer.length > MAX_SYNCHRONIZED_BUFFER_BYTES
    || (buffer.drop start).tails.any SYNCHRONIZED_UPDATE_END.isPrefixOf

/-! ## The engine -/

namespace TerminalEngine

def new (size : TerminalSize) : TerminalEngine where
  toDisplay := .new size

variable (t : TerminalEngine)

def resize (size : TerminalSize) : TerminalEngine :=
  { t with toDisplay := t.toDisplay.resize size }

def handlePrivateMode (params : String) (finalByte : Char) : Except Fault TerminalEngine :=
  if finalByte = 'h' ∨ finalByte = 'l' then
    (parseCsiNumbers params).foldlM
      (fun t mode =>
        if mode = 2026 then
          .ok { t with synchronizedUpdate := finalByte == 'h' }
        else do
          let d ← t.toDisplay.setPrivateMode mode (finalByte == 'h')
          return { t with toDisplay := d }) t
  else
    .ok t

def handleCsi (params : List UInt8) (finalByte : Char) :
    Except Fault (TerminalEngine × List UInt8) :=
  let paramsText := fromUtf8Lossy params
  match stripPrefix "?" paramsText with
  | some privateParams => (t.handlePrivateMode privateParams finalByte).map fun t => (t, [])
  | none => do
      let (d, replies) ← t.toDisplay.handleCsi paramsText finalByte
      return ({ t with toDisplay := d }, replies)

/-- What the engine does for a sequence, with its replies. -/
def act (action : Action) : Except Fault (TerminalEngine × List UInt8) :=
  match action with
  | .csi params finalByte => t.handleCsi params (Char.ofNat finalByte.toNat)
  | action => do
      let (d, replies) ← t.toDisplay.act action
      return ({ t with toDisplay := d }, replies)

/-- `flush_plain`: the modes and the character set are read once, before the
characters are put. -/
def flushPlain (plain : List UInt8) : Except Fault TerminalEngine :=
  if plain.isEmpty then
    .ok t
  else do
    let (chars, pendingUtf8) := decodeUtf8Chars (t.pendingUtf8 ++ plain)
    let modes := t.writeModes
    let decGraphics := t.activeCharset == .decGraphics
    let d ← chars.foldlM
      (fun d ch =>
        d.onActive (·.putChar (if decGraphics then translateDecGraphics ch else ch) modes))
      t.toDisplay
    return { t with toDisplay := d, pendingUtf8 }

/-- The loop of `feed_and_collect_replies`; the recursion of a synchronized
update that is applied continues it with the update's bytes as input. -/
def feedLoop : (fuel : Nat) → TerminalEngine → (plain input : List UInt8) →
    Except Fault (TerminalEngine × List UInt8)
  | 0, t, _, _ => .ok (t, [])
  | _ + 1, t, plain, [] => do
      let t ← t.flushPlain plain
      return (t, [])
  | fuel + 1, t, plain, byte :: rest =>
      if t.synchronizedUpdate then
        let buffer := t.synchronizedBuffer ++ byte :: rest
        if shouldFlushSynchronizedBuffer buffer (rest.length + 1) then
          feedLoop fuel
            { t with pendingEscape := [], synchronizedUpdate := false, synchronizedBuffer := [] }
            [] (t.pendingEscape ++ buffer)
        else
          .ok ({ t with synchronizedBuffer := buffer }, [])
      else
        match lex byte rest with
        | .plain => feedLoop fuel t (plain ++ [byte]) rest
        | .incomplete => do
            let t ← t.flushPlain plain
            return ({ t with pendingEscape := t.pendingEscape ++ byte :: rest }, [])
        | .sequence action rest => do
            let t ← t.flushPlain plain
            collect
              (match action with
              | some action => t.act action
              | none => .ok (t, []))
              fun t => feedLoop fuel t [] rest

/-- Turns that the loop can take: a sequence is consumed, or an update is
applied, whose bytes then are input. -/
def feedFuel (input : List UInt8) : Nat :=
  2 * (input.length + t.pendingEscape.length + t.synchronizedBuffer.length) + 2

def feedAndCollectReplies (bytes : List UInt8) : Except Fault (TerminalEngine × List UInt8) :=
  if t.synchronizedUpdate then
    let buffer := t.synchronizedBuffer ++ bytes
    if shouldFlushSynchronizedBuffer buffer bytes.length then
      let cleared :=
        { t with pendingEscape := [], synchronizedUpdate := false, synchronizedBuffer := [] }
      let input := t.pendingEscape ++ buffer
      feedLoop (cleared.feedFuel input) cleared [] input
    else
      .ok ({ t with synchronizedBuffer := buffer }, [])
  else
    let input := t.pendingEscape ++ bytes
    feedLoop (t.feedFuel input) { t with pendingEscape := [] } [] input

end TerminalEngine

/-- What is done to an engine from outside. -/
inductive EngineStep where
  | feed (bytes : List UInt8)
  | resize (size : TerminalSize)
  deriving DecidableEq, Repr

namespace TerminalEngine

def step (t : TerminalEngine) : EngineStep → Except Fault TerminalEngine
  | .feed bytes => (t.feedAndCollectReplies bytes).map (·.1)
  | .resize size => .ok (t.resize size)

/-- The engine after the steps, taken in order. -/
def steps (t : TerminalEngine) (es : List EngineStep) : Except Fault TerminalEngine :=
  es.foldlM step t

end TerminalEngine

end WaitAgent.Terminal
