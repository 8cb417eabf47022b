import WaitAgent.Verified.Utf8

/-!
# Paths of file URIs

Clipboards hand over files as `file://` URIs whose path is percent-encoded byte by byte.
The decoder goes over the bytes of the URI and pushes each decoded byte as a character of
its own, so a path comes back as the Latin-1 reading of its UTF-8 bytes: an ASCII path is
read as it is, every other one is not.
-/

namespace WaitAgent.Node

open Verified

inductive PlatformContext where
  | windows
  | linux
  | wsl
  | macOs
deriving DecidableEq

/-! ## The decoder -/

/-- `hex_value`. -/
def hexValue (b : UInt8) : Option Nat :=
  let n := b.toNat
  if 48 ≤ n ∧ n ≤ 57 then some (n - 48)
  else if 65 ≤ n ∧ n ≤ 70 then some (n - 65 + 10)
  else if 97 ≤ n ∧ n ≤ 102 then some (n - 97 + 10)
  else none

/-- `percent_decode`: a byte that is pushed becomes the character of the same number. -/
def percentDecode : List UInt8 → List Char
  | [] => []
  | [b] => [Char.ofNat b.toNat]
  | [b, b'] => [Char.ofNat b.toNat, Char.ofNat b'.toNat]
  | b :: high :: low :: rest =>
    match if b = 37 then (hexValue high).bind fun h => (hexValue low).map (h * 16 + ·)
      else none with
    | some value => Char.ofNat value :: percentDecode rest
    | none => Char.ofNat b.toNat :: percentDecode (high :: low :: rest)

/-- `windows_uri_path_to_windows`. -/
def windowsUriPathToWindows (path : List Char) : List Char :=
  let trimmed := match path with
    | '/' :: rest => rest
    | path => path
  trimmed.map fun c => if c = '/' then '\\' else c

/-- What follows the first `/` of a text that has one. -/
def afterSlash : List Char → Option (List Char)
  | [] => none
  | c :: rest => if c = '/' then some rest else afterSlash rest

def dropHead (head path : List Char) : Option (List Char) :=
  if head.isPrefixOf path then some (path.drop head.length) else none

/-- A drive letter and a colon behind the first slash: the byte behind the first one is a
colon, so the first character is one byte. -/
def driveAndRest : List Char → Option (Char × List Char)
  | '/' :: drive :: ':' :: rest => if drive.toNat < 0x80 then some (drive, rest) else none
  | _ => none

/-- `resolve_wsl_uri_path`. -/
def resolveWslUriPath (path : List Char) : List Char :=
  let forward := List.map fun c => if c = '\\' then '/' else c
  match driveAndRest path with
  | some (drive, rest) => "/mnt/".toList ++ drive.toLower :: forward rest
  | none =>
    match (dropHead "/wsl.localhost/".toList path).bind afterSlash with
    | some rest => '/' :: rest
    | none =>
      match (dropHead "wsl$/".toList path).bind afterSlash with
      | some rest => '/' :: rest
      | none => forward path

/-- The path a platform reads for a decoded URI. -/
def nativePath (platform : PlatformContext) (decoded : List Char) : List Char :=
  match platform with
  | .windows => windowsUriPathToWindows decoded
  | .wsl => resolveWslUriPath decoded
  | .linux | .macOs => decoded

/-- The path part behind the scheme, without the one host name that is known. -/
def pathPart (afterScheme : List Char) : List Char :=
  (dropHead "localhost".toList afterScheme).getD afterScheme

/-- `PlatformContext::resolve_file_uri`. -/
def resolveFileUri (platform : PlatformContext) (uri : List Char) : Option (List Char) :=
  (dropHead "file://".toList uri).map fun afterScheme =>
    nativePath platform (percentDecode (utf8Bytes (pathPart afterScheme)))

/-! ## Encodings

An encoding says for each byte whether it stands for itself or is written with two digits,
and for each digit whether it is in upper case. -/

def hexDigit (upper : Bool) (n : Nat) : UInt8 :=
  UInt8.ofNat (if n < 10 then 48 + n else if upper then 55 + n else 87 + n)

def encodeByte : UInt8 × Option (Bool × Bool) → List UInt8
  | (b, none) => [b]
  | (b, some (upper, upper')) =>
    [37, hexDigit upper (b.toNat / 16), hexDigit upper' (b.toNat % 16)]

def percentEncode (choices : List (UInt8 × Option (Bool × Bool))) : List UInt8 :=
  choices.flatMap encodeByte

/-- Every percent sign of the path is encoded. -/
def PercentEncoded (choices : List (UInt8 × Option (Bool × Bool))) : Prop :=
  ∀ x ∈ choices, x.1 = 37 → x.2.isSome

def latin1 (bytes : List UInt8) : List Char :=
  bytes.map fun b => Char.ofNat b.toNat

theorem hexValue_hexDigit (upper : Bool) {n : Nat} (hn : n < 16) :
    hexValue (hexDigit upper n) = some n := by
  revert n
  cases upper <;> decide

theorem percentDecode_encoded (b : UInt8) (upper upper' : Bool) (rest : List UInt8) :
    percentDecode (encodeByte (b, some (upper, upper')) ++ rest)
      = Char.ofNat b.toNat :: percentDecode rest := by
  have hHigh := hexValue_hexDigit upper (n := b.toNat / 16) (by have := b.toNat_lt; omega)
  have hLow := hexValue_hexDigit upper' (n := b.toNat % 16) (Nat.mod_lt _ (by decide))
  simp only [encodeByte, List.cons_append, List.nil_append, percentDecode, if_true, hHigh, hLow,
    Option.bind_some, Option.map_some]
  rw [show b.toNat / 16 * 16 + b.toNat % 16 = b.toNat by omega]

theorem percentDecode_raw {b : UInt8} (hb : b ≠ 37) (rest : List UInt8) :
    percentDecode (b :: rest) = Char.ofNat b.toNat :: percentDecode rest := by
  match rest with
  | [] => rfl
  | [_] => rfl
  | _ :: _ :: _ => simp only [percentDecode, if_neg hb]

/-- Decoding an encoding gives the bytes back, each as a character. -/
theorem percentDecode_percentEncode {choices : List (UInt8 × Option (Bool × Bool))}
    (h : PercentEncoded choices) :
    percentDecode (percentEncode choices) = latin1 (choices.map Prod.fst) := by
  induction choices with
  | nil => rfl
  | cons x choices ih =>
    have hRest := ih fun y hy => h y (by simp [hy])
    rw [percentEncode, List.flatMap_cons, ← percentEncode]
    obtain ⟨b, _ | ⟨upper, upper'⟩⟩ := x
    · have hb : b ≠ 37 := fun hEq => by simpa using h (b, none) (by simp) hEq
      rw [encodeByte, List.singleton_append, percentDecode_raw hb, hRest]
      rfl
    · rw [percentDecode_encoded, hRest]
      rfl

/-! ## The Latin-1 reading of a path -/

theorem latin1_utf8EncodeChar {c : Char} (hc : c.toNat < 0x80) :
    latin1 (String.utf8EncodeChar c) = [c] := by
  have hByte : c.val.toUInt8.toNat = c.toNat := by
    rw [UInt32.toNat_toUInt8]
    exact Nat.mod_eq_of_lt (by show c.toNat < 256; omega)
  rw [String.utf8EncodeChar_eq_singleton ((toNat_lt_iff c).mp hc), latin1, List.map_singleton,
    hByte, Char.ofNat_toNat]

/-- A path that has one character for each byte is ASCII. -/
theorem isAscii_of_length {path : List Char} (h : path.length = (utf8Bytes path).length) :
    IsAscii path := by
  induction path with
  | nil => exact fun c hc => by cases hc
  | cons c path ih =>
    have hPos := c.utf8Size_pos
    have hLe := length_le_utf8Bytes path
    rw [length_utf8Bytes_cons, List.length_cons] at h
    intro d hd
    obtain rfl | hd := List.mem_cons.mp hd
    · exact (toNat_lt_iff d).mpr (by omega)
    · exact ih (by omega) d hd

theorem latin1_utf8Bytes_iff (path : List Char) :
    latin1 (utf8Bytes path) = path ↔ IsAscii path := by
  refine ⟨fun h => isAscii_of_length ?_, fun h => ?_⟩
  · have hLength := congrArg List.length h
    rwa [latin1, List.length_map, eq_comm] at hLength
  · induction path with
    | nil => rfl
    | cons c path ih =>
      have hHead := latin1_utf8EncodeChar (h c (by simp))
      have hTail := ih fun c hc => h c (by simp [hc])
      rw [utf8Bytes, List.flatMap_cons, ← utf8Bytes, latin1, List.map_append, ← latin1, ← latin1,
        hHead, hTail]
      rfl

theorem high_ofNat {n : Nat} (hn : 0x80 ≤ n ∧ n < 0x100) : 0x80 ≤ (UInt8.ofNat n).toNat := by
  rw [toNat_ofNat_of_lt hn.2]
  exact hn.1

/-- The bytes of a character that is not ASCII are none of the ASCII ones. -/
theorem high_of_mem_utf8EncodeChar {c : Char} (hc : 0x80 ≤ c.toNat) {b : UInt8}
    (hb : b ∈ String.utf8EncodeChar c) : 0x80 ≤ b.toNat := by
  have hVal : c.val.toNat = c.toNat := rfl
  unfold String.utf8EncodeChar at hb
  simp only [hVal] at hb
  split_ifs at hb <;> simp only [List.mem_cons, List.not_mem_nil, or_false] at hb
  · omega
  · obtain rfl | rfl := hb <;> exact high_ofNat (by omega)
  · obtain rfl | rfl | rfl := hb <;> exact high_ofNat (by omega)
  · obtain rfl | rfl | rfl | rfl := hb <;> exact high_ofNat (by omega)

/-- The ASCII characters of a path stand in its Latin-1 reading, and no others. -/
theorem countP_latin1_utf8Bytes (path : List Char) :
    (latin1 (utf8Bytes path)).countP (·.toNat < 0x80) = path.countP (·.toNat < 0x80) := by
  induction path with
  | nil => rfl
  | cons c path ih =>
    rw [utf8Bytes, List.flatMap_cons, ← utf8Bytes, latin1, List.map_append, ← latin1, ← latin1,
      List.countP_append, ih, List.countP_cons, Nat.add_comm]
    congr 1
    by_cases hc : c.toNat < 0x80
    · rw [latin1_utf8EncodeChar hc]
      simp [hc]
    · have hHigh : ∀ d ∈ latin1 (String.utf8EncodeChar c), ¬d.toNat < 0x80 := by
        intro d hd
        obtain ⟨b, hb, rfl⟩ := List.mem_map.mp hd
        have hHigh := high_of_mem_utf8EncodeChar (Nat.le_of_not_lt hc) hb
        have hByte : (Char.ofNat b.toNat).toNat = b.toNat :=
          toNat_val_ofNat (.inl (Nat.lt_trans b.toNat_lt (by decide)))
        omega
      simpa [hc] using hHigh

/-! ## URIs -/

theorem dropHead_append (head rest : List Char) : dropHead head (head ++ rest) = some rest := by
  simp [dropHead]

/-- A host name in front of the path is dropped, and is not decoded. -/
theorem percentDecode_localhost (rest : List Char) :
    percentDecode (utf8Bytes ("localhost".toList ++ rest))
      = "localhost".toList ++ percentDecode (utf8Bytes rest) := by
  have hBytes : utf8Bytes "localhost".toList = [108, 111, 99, 97, 108, 104, 111, 115, 116] := by rfl
  rw [utf8Bytes, List.flatMap_append, ← utf8Bytes, ← utf8Bytes, hBytes]
  simp only [List.cons_append, List.nil_append]
  iterate 9 rw [percentDecode_raw (by decide)]
  rfl

/-- For the URI of a path with any choice of encoded bytes, percent signs among them: an
ASCII path comes back on every platform as that platform writes it, and on Linux and macOS
the path comes back exactly if it is ASCII and the text behind `file://` does not begin
with the host name. -/
theorem resolveFileUri_encoded (path text : List Char)
    (choices : List (UInt8 × Option (Bool × Bool)))
    (hPath : choices.map Prod.fst = utf8Bytes path)
    (hText : utf8Bytes text = percentEncode choices) (hPercent : PercentEncoded choices) :
    (IsAscii path → ¬"localhost".toList <+: text → ∀ platform,
        resolveFileUri platform ("file://".toList ++ text) = some (nativePath platform path))
      ∧ ∀ platform, platform = .linux ∨ platform = .macOs →
        (resolveFileUri platform ("file://".toList ++ text) = some path
          ↔ IsAscii path ∧ ¬"localhost".toList <+: text) := by
  have hDecoded : percentDecode (utf8Bytes text) = latin1 (utf8Bytes path) := by
    rw [hText, percentDecode_percentEncode hPercent, hPath]
  have hPlain : ¬"localhost".toList <+: text → ∀ platform,
      resolveFileUri platform ("file://".toList ++ text)
        = some (nativePath platform (latin1 (utf8Bytes path))) := by
    intro hHost platform
    rw [← List.isPrefixOf_iff_prefix] at hHost
    rw [resolveFileUri, dropHead_append, Option.map_some, pathPart, dropHead, if_neg hHost,
      Option.getD_none, hDecoded]
  refine ⟨fun hAscii hHost platform => ?_, fun platform hPlatform => ?_⟩
  · rw [hPlain hHost, (latin1_utf8Bytes_iff path).mpr hAscii]
  have hNative : ∀ decoded, nativePath platform decoded = decoded := by
    obtain rfl | rfl := hPlatform <;> exact fun _ => rfl
  by_cases hHost : "localhost".toList <+: text
  · -- The decoded rest has nine ASCII characters less than the path.
    obtain ⟨rest, rfl⟩ := hHost
    rw [resolveFileUri, dropHead_append, Option.map_some, pathPart, dropHead_append,
      Option.getD_some, hNative]
    rw [percentDecode_localhost] at hDecoded
    constructor
    · intro hEq
      rw [Option.some.inj hEq] at hDecoded
      have hCount := countP_latin1_utf8Bytes path
      rw [← hDecoded, List.countP_append] at hCount
      have hNine : "localhost".toList.countP (·.toNat < 0x80) = 9 := by rfl
      omega
    · exact fun h => absurd (List.prefix_append _ _) h.2
  · rw [hPlain hHost, hNative, Option.some.injEq, latin1_utf8Bytes_iff]
    exact ⟨fun hAscii => ⟨hAscii, hHost⟩, And.left⟩

/-- `/a b` with the blank encoded. -/
theorem resolveFileUri_encoded_blank :
    resolveFileUri .linux "file:///a%20b".toList = some "/a b".toList :=
  ((resolveFileUri_encoded "/a b".toList "/a%20b".toList
    [(47, none), (97, none), (32, some (true, true)), (98, none)] (by rfl) (by rfl)
    (by simp [PercentEncoded])).2 .linux (.inl rfl)).mpr
    ⟨by simp [IsAscii], by decide⟩

/-- `/é` with both bytes of the last character encoded comes back as `/Ã©`. -/
theorem resolveFileUri_latin1 :
    utf8Bytes "/%C3%A9".toList
        = percentEncode [(47, none), (0xC3, some (true, true)), (0xA9, some (true, true))]
      ∧ [47, 0xC3, 0xA9] = utf8Bytes "/é".toList
      ∧ resolveFileUri .linux "file:///%C3%A9".toList = some "/Ã©".toList
      ∧ resolveFileUri .linux "file:///%C3%A9".toList ≠ some "/é".toList := by
  refine ⟨by rfl, by rfl, by rfl, by decide⟩

end WaitAgent.Node
