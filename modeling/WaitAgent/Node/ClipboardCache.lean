import WaitAgent.Node.PasteText
import WaitAgent.Node.StateLoop
import WaitAgent.Terminal.Ansi
import WaitAgent.Verified.Paths

/-!
# The cache of pasted files

A pasted file is written to a directory of its own under a name that is made of the
hint it came with and a random part, and a reference to it is typed into the terminal.
The stem of the hint is cleaned of control characters; its extension is taken as it
is, in lower case.

What the operating system does is given with each paste: the random bytes or the clock,
and whether the directory and the file could be written.  Lower case is the standard
library's; only what it does to a few characters matters here (`Lowercase`).
-/

namespace WaitAgent.Node

open Domain Verified

open Terminal (isControl)

/-! ## Names -/

/-- No control character in the text. -/
def NoControl (s : String) : Prop :=
  ∀ c ∈ s.toList, isControl c = false

instance (s : String) : Decidable (NoControl s) :=
  List.decidableBAll (fun c => isControl c = false) s.toList

/-- `str::to_lowercase`: it makes no separator, dot or control character of anything
else, leaves control characters as they are and no text empty. -/
structure Lowercase where
  toLowercase : String → String
  slash : ∀ s, '/' ∈ (toLowercase s).toList → '/' ∈ s.toList
  dot : ∀ s, '.' ∈ (toLowercase s).toList → '.' ∈ s.toList
  noControl_iff : ∀ s, NoControl (toLowercase s) ↔ NoControl s
  eq_empty_iff : ∀ s, toLowercase s = "" ↔ s = ""

/-- Lower case, for texts that have no other. -/
def keepCase : Lowercase :=
  ⟨id, fun _ => id, fun _ => id, fun _ => Iff.rfl, fun _ => Iff.rfl⟩

def sanitizeFilenameStem (name : String) : String :=
  let trimmed := trim name
  if trimmed = "" then "paste"
  else
    let stem := (fileStem trimmed).getD "paste"
    trim (String.ofList (stem.toList.filter fun c => !isControl c && c != '\x00'))

def extensionFromFilename (lower : Lowercase) (name : String) : Option String :=
  (fileExtension name).map lower.toLowercase

def alphanum : List Char :=
  "abcdefghijklmnopqrstuvwxyz0123456789".toList

/-- Random characters, or the clock if there are none. -/
def randomSuffix (entropy : Option (Vector UInt8 8)) (millis : Option Nat) : String :=
  match entropy with
  | some bytes =>
      String.ofList (bytes.toList.map fun b => alphanum.getD (b.toNat % alphanum.length) 'a')
  | none =>
      match millis with
      | some millis => toString millis
      | none => "00000000"

def uniqueCachedFilename (lower : Lowercase) (filenameHint suffix : String) : String :=
  let stem := sanitizeFilenameStem filenameHint
  match extensionFromFilename lower filenameHint with
  | some ext => if ext = "" then stem ++ "-" ++ suffix else stem ++ "-" ++ suffix ++ "." ++ ext
  | none => stem ++ "-" ++ suffix

/-! ## Files and references -/

/-- `std::env::temp_dir().join("waitagent")`. -/
def clipboardCacheDir (tempDir : String) : String :=
  joinPath tempDir "waitagent"

/-- A pasted file, and what the operating system answers while it is cached. -/
structure PastedFile where
  filenameHint : String
  bytes : List UInt8
  entropy : Option (Vector UInt8 8)
  millis : Option Nat
  dirCreated : Bool
  fileWritten : Bool

namespace PastedFile

def suffix (file : PastedFile) : String :=
  randomSuffix file.entropy file.millis

def cachedName (lower : Lowercase) (file : PastedFile) : String :=
  uniqueCachedFilename lower file.filenameHint file.suffix

end PastedFile

/-- The path of the file; nothing can be written to a path with a NUL in it. -/
def writeClipboardFile (lower : Lowercase) (tempDir : String) (file : PastedFile) :
    Except String String :=
  let dir := clipboardCacheDir tempDir
  let path := joinPath dir (file.cachedName lower)
  if !file.dirCreated then .error ("failed to create clipboard cache dir " ++ dir)
  else if '\x00' ∈ path.toList ∨ !file.fileWritten then
    .error ("failed to write clipboard cache file " ++ path)
  else .ok path

def formatFileReference (path : String) (supportsAt : Bool) : String :=
  if !supportsAt then path
  else if path.toList.any isWhitespace then "\"@" ++ path ++ "\""
  else "@" ++ path

def acceptsAtReference (commandName : String) : Bool :=
  ["kimi", "claude", "codex"].contains commandName

/-! ## Receivers -/

/-- Text on its way to a terminal. -/
structure TypedText where
  target : InputTarget
  text : String

/-- What became of a file: the answer, the path it was written to and what was typed. -/
structure PasteResult where
  outcome : CommandOutcome
  path : Option String := none
  typed : Option TypedText := none

namespace SharedState

/-- A file pasted by a client.  For a session of a peer the file is sent on. -/
def handlePasteFile (s : SharedState) (lower : Lowercase) (tempDir target : String)
    (file : PastedFile) : PasteResult :=
  match s.sessions.get target with
  | none => { outcome := .error "unknown target" }
  | some record =>
      let supportsAt := (record.agentCommandName.map acceptsAtReference).getD false
      match record.address.transport with
      | .localNode =>
          match writeClipboardFile lower tempDir file with
          | .error error => { outcome := .error ("failed to cache pasted file: " ++ error) }
          | .ok path =>
              let reference := formatFileReference path supportsAt
              if (s.localSessions.lookup target).isSome then
                { outcome := .ok, path, typed := some ⟨.localSession target, reference⟩ }
              else
                match s.hostSessionIn target with
                | some sessionId =>
                    { outcome := .ok, path, typed := some ⟨.authorityHost sessionId, reference⟩ }
                | none => { outcome := .error "local session not found", path }
      | .remotePeer => { outcome := .ok }

/-- What the record of a hosted session says about its agent, or else what runs in the
foreground of its terminal. -/
def authorityHostSupportsAt (s : SharedState) (sessionId : String) (foreground : Option String) :
    Bool :=
  match (s.sessions.get (s.localTarget sessionId)).bind (·.agentCommandName) with
  | some agent => acceptsAtReference agent
  | none => (foreground.map acceptsAtReference).getD false

/-- A file of a remote viewer, complete, for a session that the node hosts.  A failure is
only logged. -/
def hostPasteFile (s : SharedState) (lower : Lowercase) (tempDir sessionId : String)
    (foreground : Option String) (file : PastedFile) : PasteResult :=
  match writeClipboardFile lower tempDir file with
  | .error error => { outcome := .error error }
  | .ok path =>
      { outcome := .ok
        path
        typed := some ⟨.authorityHost sessionId,
          formatFileReference path (s.authorityHostSupportsAt sessionId foreground)⟩ }

end SharedState

/-- How a file was received. -/
inductive PasteReceiver where
  | client (s : SharedState) (target : String)
  | viewer (s : SharedState) (sessionId : String) (foreground : Option String)

def PasteReceiver.receive (lower : Lowercase) (tempDir : String) (file : PastedFile) :
    PasteReceiver → PasteResult
  | .client s target => s.handlePasteFile lower tempDir target file
  | .viewer s sessionId foreground => s.hostPasteFile lower tempDir sessionId foreground file

end WaitAgent.Node
