import Mathlib.Data.List.Basic

/-!
# UTF-8 as a stream

The reading side of UTF-8, with the errors a decoder of a byte stream has to
tell apart.  `scanChar` looks at the front of a byte string and finds a
character, a sequence that nothing can complete (with the number of bytes to
skip), or the beginning of a character whose end is missing.  `fromUtf8` is the
validation of the standard library on top of it.

The main facts are that more bytes never change what was found
(`scanChar_append`), that a character is found where it was encoded
(`scanChar_utf8EncodeChar`) and nowhere else (`utf8EncodeChar_of_scanChar`), and that
nothing is ever found in a piece that was set aside for the next bytes.
-/

namespace WaitAgent.Verified

/-- What stands at the front of a byte string. -/
inductive Utf8Scan where
  /-- a character, and how many bytes it takes -/
  | char (c : Char) (length : Nat)
  /-- no character can begin like this; so many bytes are in error -/
  | invalid (length : Nat)
  /-- the bytes end within a character -/
  | incomplete
  deriving DecidableEq, Repr

/-- The number of bytes a character has by its first one; zero if no character
begins with it. -/
def utf8CharWidth (first : Nat) : Nat :=
  if first < 0x80 then 1
  else if first < 0xC2 then 0
  else if first < 0xE0 then 2
  else if first < 0xF0 then 3
  else if first < 0xF5 then 4
  else 0

def isContinuation (byte : Nat) : Bool :=
  0x80 ≤ byte && byte < 0xC0

/-- The second byte of a character; some first bytes leave it less room. -/
def isSecondByte (first byte : Nat) : Bool :=
  isContinuation byte &&
    !((first == 0xE0 && byte < 0xA0) || (first == 0xED && 0xA0 ≤ byte)
      || (first == 0xF0 && byte < 0x90) || (first == 0xF4 && 0x90 ≤ byte))

/-- May `byte` follow where `seen` bytes of a character were read? -/
def mayFollow (first seen byte : Nat) : Bool :=
  if seen = 1 then isSecondByte first byte else isContinuation byte

/-- Read the rest of a character of which `seen` bytes, with the value so far,
were read and `needed` are missing. -/
def scanRest (first : Nat) : (needed seen value : Nat) → List UInt8 → Utf8Scan
  | 0, seen, value, _ => .char (Char.ofNat value) seen
  | _ + 1, _, _, [] => .incomplete
  | needed + 1, seen, value, byte :: bytes =>
      if mayFollow first seen byte.toNat then
        scanRest first needed (seen + 1) (value * 64 + byte.toNat % 64) bytes
      else
        .invalid seen

/-- What the first byte contributes to the value of the character. -/
def leadValue (first : Nat) : Nat :=
  if first < 0x80 then first
  else if first < 0xE0 then first % 32
  else if first < 0xF0 then first % 16
  else first % 8

/-- Look at the front of a byte string that is not empty. -/
def scanChar (first : UInt8) (bytes : List UInt8) : Utf8Scan :=
  match utf8CharWidth first.toNat with
  | 0 => .invalid 1
  | width + 1 => scanRest first.toNat width 1 (leadValue first.toNat) bytes

/-! ## More bytes change nothing that was found -/

theorem scanRest_append {first : Nat} (more : List UInt8) :
    ∀ (needed seen value : Nat) (bytes : List UInt8),
      scanRest first needed seen value bytes ≠ .incomplete →
      scanRest first needed seen value (bytes ++ more) =
        scanRest first needed seen value bytes := by
  intro needed
  induction needed with
  | zero => exact fun seen value bytes _ => rfl
  | succ needed ih =>
    intro seen value bytes hFound
    cases bytes with
    | nil => exact absurd rfl hFound
    | cons byte bytes =>
      rw [List.cons_append, scanRest, scanRest]
      rw [scanRest] at hFound
      split
      · rename_i hOk
        rw [if_pos hOk] at hFound
        exact ih _ _ _ hFound
      · rfl

variable {bytes : List UInt8} {c : Char} {n : Nat} {first : UInt8} {byte : UInt8}

theorem scanChar_append (more : List UInt8) (hFound : scanChar first bytes ≠ .incomplete) :
    scanChar first (bytes ++ more) = scanChar first bytes := by
  unfold scanChar at hFound ⊢
  split
  · rfl
  · rename_i width hWidth
    rw [hWidth] at hFound
    exact scanRest_append more _ _ _ _ hFound

/-- Nor do fewer bytes, as long as the character is among them. -/
theorem scanRest_take {first : Nat} :
    ∀ (needed seen value : Nat) (bytes : List UInt8) (k : Nat), needed ≤ k →
      scanRest first needed seen value bytes = .char c n →
      scanRest first needed seen value (bytes.take k) = .char c n := by
  intro needed
  induction needed with
  | zero => exact fun seen value bytes k _ h => h
  | succ needed ih =>
    intro seen value bytes k hk h
    cases bytes with
    | nil => cases h
    | cons byte bytes =>
      obtain ⟨k, rfl⟩ : ∃ j, k = j + 1 := ⟨k - 1, by omega⟩
      rw [scanRest] at h
      rw [List.take_succ_cons, scanRest]
      split at h
      · rename_i hOk
        rw [if_pos hOk]
        exact ih _ _ _ _ (Nat.le_of_succ_le_succ hk) h
      · cases h

/-- What was found lies within the bytes. -/
theorem scanRest_length (first : Nat) :
    ∀ (needed seen value : Nat) (bytes : List UInt8),
      (∀ c n, scanRest first needed seen value bytes = .char c n → n = seen + needed ∧
        needed ≤ bytes.length) ∧
      ∀ n, scanRest first needed seen value bytes = .invalid n →
        seen ≤ n ∧ n < seen + needed ∧ n - seen < bytes.length := by
  intro needed
  induction needed with
  | zero =>
    intro seen value bytes
    refine ⟨fun c n h => ?_, fun n h => ?_⟩
    · rw [scanRest] at h
      cases h
      exact ⟨rfl, Nat.zero_le _⟩
    · rw [scanRest] at h
      cases h
  | succ needed ih =>
    intro seen value bytes
    cases bytes with
    | nil =>
      rw [scanRest]
      exact ⟨fun c n => nofun, fun n => nofun⟩
    | cons byte bytes =>
      obtain ⟨hChar, hInvalid⟩ := ih (seen + 1) (value * 64 + byte.toNat % 64) bytes
      rw [scanRest]
      split
      · refine ⟨fun c n h => ?_, fun n h => ?_⟩
        · obtain ⟨hn, hLength⟩ := hChar c n h
          exact ⟨by omega, by simpa using hLength⟩
        · obtain ⟨hSeen, hn, hLength⟩ := hInvalid n h
          refine ⟨by omega, by omega, ?_⟩
          rw [List.length_cons]
          omega
      · refine ⟨fun c n => nofun, fun n h => ?_⟩
        cases h
        refine ⟨Nat.le_refl _, by omega, ?_⟩
        rw [List.length_cons]
        omega

/-- A find takes at least the first byte and at most all. -/
theorem scanChar_length :
    (∀ c n, scanChar first bytes = .char c n → 0 < n ∧ n ≤ bytes.length + 1) ∧
      ∀ n, scanChar first bytes = .invalid n → 0 < n ∧ n ≤ bytes.length + 1 := by
  unfold scanChar
  split
  · refine ⟨fun c n => nofun, fun n h => ?_⟩
    cases h
    exact ⟨Nat.one_pos, Nat.le_add_left 1 _⟩
  · rename_i width hWidth
    obtain ⟨hChar, hInvalid⟩ := scanRest_length first.toNat width 1
      (leadValue first.toNat) bytes
    refine ⟨fun c n h => ?_, fun n h => ?_⟩
    · obtain ⟨hn, hLength⟩ := hChar c n h
      omega
    · obtain ⟨hSeen, hn, hLength⟩ := hInvalid n h
      omega

theorem scanChar_take {n k : Nat} (h : scanChar first bytes = .char c n) (hk : n ≤ k + 1) :
    scanChar first (bytes.take k) = .char c n := by
  unfold scanChar at h ⊢
  split at h
  · cases h
  · rename_i width hWidth
    have hLength := (scanRest_length first.toNat width 1 _ bytes).1 c n h
    exact scanRest_take _ _ _ _ _ (by omega) h

/-! ## Decoding a stream -/

/-- What decoding yields: the characters, and the bytes kept for the next ones. -/
abbrev Decoded := List Char × List UInt8

def Decoded.prepend (chars : List Char) (d : Decoded) : Decoded :=
  (chars ++ d.1, d.2)

@[simp] theorem Decoded.prepend_nil (d : Decoded) : Decoded.prepend [] d = d := rfl

/-- The character that stands for bytes in error. -/
def replacementCharacter : Char := '\uFFFD'

/-- Decode the bytes after the next `skip` ones. -/
def decodeAfter : (skip : Nat) → List UInt8 → Decoded
  | _, [] => ([], [])
  | skip + 1, _ :: bytes => decodeAfter skip bytes
  | 0, byte :: bytes =>
      match scanChar byte bytes with
      | .char c n => Decoded.prepend [c] (decodeAfter (n - 1) bytes)
      | .invalid n => Decoded.prepend [replacementCharacter] (decodeAfter (n - 1) bytes)
      | .incomplete => ([], byte :: bytes)

/-- All the characters in `bytes`, with a replacement for each sequence in
error, and the unfinished character at their end. -/
def decodeStream (bytes : List UInt8) : Decoded :=
  decodeAfter 0 bytes

theorem decodeAfter_eq (skip : Nat) (bytes : List UInt8) :
    decodeAfter skip bytes = decodeStream (bytes.drop skip) := by
  induction bytes generalizing skip with
  | nil => rw [decodeAfter, List.drop_nil, decodeStream, decodeAfter]
  | cons byte bytes ih =>
    cases skip with
    | zero => rfl
    | succ skip => rw [decodeAfter, ih, List.drop_succ_cons]

@[simp] theorem decodeStream_nil : decodeStream [] = ([], []) := by
  rw [decodeStream, decodeAfter]

theorem decodeStream_cons (byte : UInt8) (bytes : List UInt8) :
    decodeStream (byte :: bytes) =
      match scanChar byte bytes with
      | .char c n => Decoded.prepend [c] (decodeStream (bytes.drop (n - 1)))
      | .invalid n =>
        Decoded.prepend [replacementCharacter] (decodeStream (bytes.drop (n - 1)))
      | .incomplete => ([], byte :: bytes) := by
  rw [decodeStream, decodeAfter]
  split <;> simp only [decodeAfter_eq]

theorem decodeStream_char (h : scanChar byte bytes = .char c n) :
    decodeStream (byte :: bytes) = Decoded.prepend [c] (decodeStream (bytes.drop (n - 1))) := by
  rw [decodeStream_cons, h]

/-- A stream can be decoded piece by piece: what was kept goes before the next
piece. -/
theorem decodeStream_append (more : List UInt8) :
    ∀ (n : Nat) (bytes : List UInt8), bytes.length ≤ n →
      decodeStream (bytes ++ more) =
        Decoded.prepend (decodeStream bytes).1 (decodeStream ((decodeStream bytes).2 ++ more)) := by
  intro n
  induction n with
  | zero =>
    intro bytes hLength
    rw [List.eq_nil_of_length_eq_zero (Nat.le_zero.mp hLength)]
    simp
  | succ n ih =>
    intro bytes hLength
    cases bytes with
    | nil => simp
    | cons byte bytes =>
      have hShorter : ∀ k, (bytes.drop k).length ≤ n := fun k => by
        rw [List.length_cons] at hLength
        rw [List.length_drop]
        omega
      rw [List.cons_append, decodeStream_cons, decodeStream_cons byte bytes]
      cases hScan : scanChar byte bytes with
      | char c k =>
        have hk := (scanChar_length.1 c k hScan).2
        rw [scanChar_append more (by rw [hScan]; nofun), hScan]
        dsimp only
        rw [List.drop_append_of_le_length (by omega), ih _ (hShorter _)]
        simp [Decoded.prepend]
      | invalid k =>
        have hk := (scanChar_length.2 k hScan).2
        rw [scanChar_append more (by rw [hScan]; nofun), hScan]
        dsimp only
        rw [List.drop_append_of_le_length (by omega), ih _ (hShorter _)]
        simp [Decoded.prepend]
      | incomplete => rw [← decodeStream_cons, Decoded.prepend_nil, List.cons_append]

/-! ## Validation -/

/-- `std::str::Utf8Error`: the length of the valid part, and of the sequence in
error after it, unless the bytes end within a character. -/
structure Utf8Error where
  validUpTo : Nat
  errorLen : Option Nat
  deriving DecidableEq, Repr

def Utf8Error.after (n : Nat) (e : Utf8Error) : Utf8Error :=
  { e with validUpTo := n + e.validUpTo }

/-- Validate the bytes after the next `skip` ones. -/
def fromUtf8After : (skip : Nat) → List UInt8 → Except Utf8Error (List Char)
  | _, [] => .ok []
  | skip + 1, _ :: bytes => (fromUtf8After skip bytes).mapError (Utf8Error.after 1)
  | 0, byte :: bytes =>
      match scanChar byte bytes with
      | .char c n =>
          ((fromUtf8After (n - 1) bytes).mapError (Utf8Error.after 1)).map (c :: ·)
      | .invalid n => .error { validUpTo := 0, errorLen := some n }
      | .incomplete => .error { validUpTo := 0, errorLen := none }

/-- `std::str::from_utf8`, with the characters of the text. -/
def fromUtf8 (bytes : List UInt8) : Except Utf8Error (List Char) :=
  fromUtf8After 0 bytes

theorem fromUtf8After_eq (skip : Nat) (bytes : List UInt8) :
    fromUtf8After skip bytes = (fromUtf8 (bytes.drop skip)).mapError (Utf8Error.after skip) := by
  induction bytes generalizing skip with
  | nil =>
    rw [List.drop_nil, fromUtf8, fromUtf8After]
    rfl
  | cons byte bytes ih =>
    cases skip with
    | zero =>
      rw [List.drop_zero, ← fromUtf8]
      cases fromUtf8 (byte :: bytes) with
      | ok chars => rfl
      | error e => simp [Except.mapError, Utf8Error.after]
    | succ skip =>
      rw [fromUtf8After, ih, List.drop_succ_cons]
      cases fromUtf8 (bytes.drop skip) with
      | ok chars => rfl
      | error e =>
        simp only [Except.mapError, Utf8Error.after, Except.error.injEq,
          Utf8Error.mk.injEq, and_true]
        omega

/-- A character at the front is valid, and the rest decides. -/
theorem fromUtf8_char (h : scanChar byte bytes = .char c n) :
    fromUtf8 (byte :: bytes) =
      ((fromUtf8 (bytes.drop (n - 1))).mapError (Utf8Error.after n)).map (c :: ·) := by
  have hn := (scanChar_length.1 c n h).1
  rw [fromUtf8, fromUtf8After, h]
  dsimp only
  rw [fromUtf8After_eq]
  cases fromUtf8 (bytes.drop (n - 1)) with
  | ok chars => rfl
  | error e =>
    simp only [Except.mapError, Except.map, Utf8Error.after, Except.error.injEq,
      Utf8Error.mk.injEq, and_true]
    omega

/-- What an error says: the bytes up to it are valid, and a scan finds it there. -/
structure Utf8Error.Describes (e : Utf8Error) (bytes : List UInt8) : Prop where
  valid : ∃ chars, fromUtf8 (bytes.take e.validUpTo) = .ok chars ∧
    decodeStream bytes = Decoded.prepend chars (decodeStream (bytes.drop e.validUpTo))
  found : ∃ byte rest, bytes.drop e.validUpTo = byte :: rest ∧
    scanChar byte rest = e.errorLen.elim .incomplete .invalid

/-- An error after a character is an error further on. -/
theorem Utf8Error.Describes.after (hScan : scanChar byte bytes = .char c n) {e : Utf8Error}
    (h : e.Describes (bytes.drop (n - 1))) : (e.after n).Describes (byte :: bytes) := by
  obtain ⟨m, rfl⟩ : ∃ m, n = m + 1 := ⟨n - 1, by have := (scanChar_length.1 c n hScan).1; omega⟩
  rw [Nat.add_sub_cancel] at h
  have hUpTo : (e.after (m + 1)).validUpTo = m + e.validUpTo + 1 := Nat.add_right_comm m 1 _
  obtain ⟨⟨chars, hValid, hDecode⟩, hFound⟩ := h
  rw [List.drop_drop] at hDecode hFound
  refine ⟨⟨c :: chars, ?_, ?_⟩, ?_⟩
  · rw [hUpTo, List.take_succ_cons, fromUtf8_char (scanChar_take hScan (by omega)),
      Nat.add_sub_cancel, List.drop_take, Nat.add_sub_cancel_left, hValid]
    rfl
  · rw [hUpTo, List.drop_succ_cons, decodeStream_char hScan, Nat.add_sub_cancel, hDecode]
    rfl
  · rw [hUpTo, List.drop_succ_cons]
    exact hFound

/-- Validation and decoding agree: valid bytes are decoded as a whole, and an
error stands where it is said to stand. -/
theorem fromUtf8_spec :
    ∀ (n : Nat) (bytes : List UInt8), bytes.length ≤ n →
      (∀ chars, fromUtf8 bytes = .ok chars → decodeStream bytes = (chars, [])) ∧
      ∀ e, fromUtf8 bytes = .error e → e.Describes bytes := by
  intro n
  induction n with
  | zero =>
    intro bytes hLength
    rw [List.eq_nil_of_length_eq_zero (Nat.le_zero.mp hLength)]
    refine ⟨fun chars h => ?_, fun e h => ?_⟩
    · cases h
      exact decodeStream_nil
    · cases h
  | succ n ih =>
    intro bytes hLength
    cases bytes with
    | nil => exact ih [] (Nat.zero_le n)
    | cons byte bytes =>
      cases hScan : scanChar byte bytes with
      | char c k =>
        have hShorter : (bytes.drop (k - 1)).length ≤ n := by
          rw [List.length_cons] at hLength
          rw [List.length_drop]
          omega
        obtain ⟨hOk, hError⟩ := ih _ hShorter
        rw [fromUtf8_char hScan]
        cases hRest : fromUtf8 (bytes.drop (k - 1)) with
        | ok chars =>
          refine ⟨fun _ h => ?_, fun _ h => by cases h⟩
          cases h
          rw [decodeStream_char hScan, hOk chars hRest]
          rfl
        | error e =>
          refine ⟨fun _ h => (by cases h), fun _ h => ?_⟩
          cases h
          exact (hError e hRest).after hScan
      | invalid k =>
        rw [fromUtf8, fromUtf8After, hScan]
        refine ⟨fun _ h => (by cases h), fun _ h => ?_⟩
        cases h
        exact ⟨⟨[], rfl, rfl⟩, ⟨byte, bytes, rfl, hScan⟩⟩
      | incomplete =>
        rw [fromUtf8, fromUtf8After, hScan]
        refine ⟨fun _ h => (by cases h), fun _ h => ?_⟩
        cases h
        exact ⟨⟨[], rfl, rfl⟩, ⟨byte, bytes, rfl, hScan⟩⟩

/-! ## Characters are found where they were encoded -/

theorem toNat_ofNat_of_lt (h : n < 256) : (UInt8.ofNat n).toNat = n := by
  rw [UInt8.toNat_ofNat']
  exact Nat.mod_eq_of_lt h

/-- One byte of the rest of a character, given by its six bits. -/
theorem scanRest_byte {first needed seen value : Nat} {bits : Nat} (hBits : bits < 64)
    (h : seen = 1 → isSecondByte first (bits + 0x80)) (bytes : List UInt8) :
    scanRest first (needed + 1) seen value (UInt8.ofNat (bits + 0x80) :: bytes) =
      scanRest first needed (seen + 1) (value * 64 + bits) bytes := by
  have hByte : (UInt8.ofNat (bits + 0x80)).toNat = bits + 0x80 := toNat_ofNat_of_lt (by omega)
  have hFollow : mayFollow first seen (bits + 0x80) = true := by
    unfold mayFollow
    split
    · rename_i hSeen
      exact h hSeen
    · simp only [isContinuation, Bool.and_eq_true, decide_eq_true_eq]
      omega
  have hSix : (bits + 0x80) % 64 = bits := by omega
  rw [scanRest, hByte, if_pos hFollow, hSix]

/-- The first byte of a character says how many follow and gives the top of its
value. -/
theorem scanChar_lead (width value : Nat) {lead : Nat} (hLead : lead < 256)
    (hWidth : utf8CharWidth lead = width + 1) (hValue : leadValue lead = value)
    (bytes : List UInt8) :
    scanChar (UInt8.ofNat lead) bytes = scanRest lead width 1 value bytes := by
  rw [scanChar, toNat_ofNat_of_lt hLead, hWidth, hValue]

theorem scanChar_utf8EncodeChar (c : Char) :
    ∃ first rest, String.utf8EncodeChar c = first :: rest ∧
      ∀ more, scanChar first (rest ++ more) = .char c (rest.length + 1) := by
  have hValid : c.val.toNat < 0xD800 ∨ 0xDFFF < c.val.toNat ∧ c.val.toNat < 0x110000 := c.valid
  have hChar : ∀ n, n = c.val.toNat → Char.ofNat n = c := fun n hn => by
    rw [hn]
    exact Char.ofNat_toNat c
  unfold String.utf8EncodeChar
  generalize c.val.toNat = v at hValid hChar
  dsimp only
  -- the four lengths of a character
  split
  · refine ⟨_, _, rfl, fun more => ?_⟩
    rw [scanChar_lead 0 v (by omega) (by grind [utf8CharWidth])
      (by grind [leadValue])]
    rw [scanRest, hChar v rfl]
    rfl
  · split
    · refine ⟨_, _, rfl, fun more => ?_⟩
      rw [scanChar_lead 1 (v / 64 % 32) (by omega)
        (by grind [utf8CharWidth]) (by grind [leadValue])]
      rw [List.cons_append, scanRest_byte (Nat.mod_lt _ (by decide))
        (fun _ => by simp [isSecondByte, isContinuation]; omega)]
      rw [scanRest, hChar _ (by omega)]
      rfl
    · split
      · refine ⟨_, _, rfl, fun more => ?_⟩
        rw [scanChar_lead 2 (v / 4096 % 16) (by omega)
          (by grind [utf8CharWidth]) (by grind [leadValue])]
        rw [List.cons_append, scanRest_byte (Nat.mod_lt _ (by decide))
          (fun _ => by simp [isSecondByte, isContinuation]; omega)]
        rw [List.cons_append, scanRest_byte (Nat.mod_lt _ (by decide)) (fun h => by omega)]
        rw [scanRest, hChar _ (by omega)]
        rfl
      · refine ⟨_, _, rfl, fun more => ?_⟩
        rw [scanChar_lead 3 (v / 262144 % 8) (by omega)
          (by grind [utf8CharWidth]) (by grind [leadValue])]
        rw [List.cons_append, scanRest_byte (Nat.mod_lt _ (by decide))
          (fun _ => by simp [isSecondByte, isContinuation]; omega)]
        rw [List.cons_append, scanRest_byte (Nat.mod_lt _ (by decide)) (fun h => by omega)]
        rw [List.cons_append, scanRest_byte (Nat.mod_lt _ (by decide)) (fun h => by omega)]
        rw [scanRest, hChar _ (by omega)]
        rfl

/-- The bytes of a text. -/
def utf8Bytes (chars : List Char) : List UInt8 :=
  chars.flatMap String.utf8EncodeChar

theorem decodeStream_utf8EncodeChar (c : Char) (more : List UInt8) :
    decodeStream (String.utf8EncodeChar c ++ more) = Decoded.prepend [c] (decodeStream more) := by
  obtain ⟨first, rest, hEncode, hScan⟩ := scanChar_utf8EncodeChar c
  rw [hEncode, List.cons_append, decodeStream_cons, hScan]
  simp

theorem decodeStream_utf8Bytes (chars : List Char) :
    decodeStream (utf8Bytes chars) = (chars, []) := by
  induction chars with
  | nil => exact decodeStream_nil
  | cons c chars ih =>
    rw [utf8Bytes, List.flatMap_cons, decodeStream_utf8EncodeChar, ← utf8Bytes, ih]
    rfl

/-- The bytes of a text are valid. -/
theorem fromUtf8_utf8Bytes (chars : List Char) : fromUtf8 (utf8Bytes chars) = .ok chars := by
  induction chars with
  | nil => rfl
  | cons c chars ih =>
    obtain ⟨first, rest, hEncode, hScan⟩ := scanChar_utf8EncodeChar c
    rw [utf8Bytes, List.flatMap_cons, ← utf8Bytes, hEncode, List.cons_append,
      fromUtf8_char (hScan _), Nat.add_sub_cancel, List.drop_left, ih]
    rfl

theorem utf8Bytes_injective : Function.Injective utf8Bytes := fun a b h => by
  have hDecoded := congrArg fromUtf8 h
  rw [fromUtf8_utf8Bytes, fromUtf8_utf8Bytes] at hDecoded
  exact Except.ok.inj hDecoded

/-! ## Lengths -/

def IsAscii (text : List Char) : Prop :=
  ∀ c ∈ text, c.toNat < 0x80

theorem toNat_lt_iff (c : Char) : c.toNat < 0x80 ↔ c.utf8Size = 1 := by
  rw [Char.utf8Size_eq_one_iff, UInt32.le_iff_toNat_le]
  show c.toNat < 128 ↔ c.toNat ≤ 127
  omega

theorem length_utf8Bytes_cons (c : Char) (text : List Char) :
    (utf8Bytes (c :: text)).length = c.utf8Size + (utf8Bytes text).length := by
  simp [utf8Bytes]

theorem length_le_utf8Bytes (text : List Char) : text.length ≤ (utf8Bytes text).length := by
  induction text with
  | nil => exact Nat.le_refl _
  | cons c text ih =>
    have hPos := c.utf8Size_pos
    rw [length_utf8Bytes_cons, List.length_cons]
    omega

/-! ## What was found was encoded -/

theorem scanRest_one {first seen value n needed : Nat}
    (h : scanRest first (needed + 1) seen value bytes = .char c n) :
    ∃ byte rest, bytes = byte :: rest ∧ mayFollow first seen byte.toNat = true ∧
      scanRest first needed (seen + 1) (value * 64 + byte.toNat % 64) rest = .char c n := by
  cases bytes with
  | nil => simp [scanRest] at h
  | cons byte rest =>
    rw [scanRest] at h
    split_ifs at h with hFollow
    exact ⟨byte, rest, rfl, hFollow, h⟩

theorem toNat_val_ofNat {v : Nat} (h : v < 0xD800 ∨ 0xDFFF < v ∧ v < 0x110000) :
    (Char.ofNat v).val.toNat = v := by
  have hValid : v.isValidChar := h
  rw [Char.ofNat, dif_pos hValid]
  rfl

theorem ofNat_eq_of_toNat {x : UInt8} (h : n = x.toNat) : UInt8.ofNat n = x := by
  rw [h, UInt8.ofNat_toNat]

/-- A second byte continues the character, within the room that the first one leaves. -/
theorem isSecondByte_iff {first byte : Nat} :
    isSecondByte first byte = true ↔ 0x80 ≤ byte ∧ byte < 0xC0 ∧ (first = 0xE0 → 0xA0 ≤ byte) ∧
      (first = 0xED → byte < 0xA0) ∧ (first = 0xF0 → 0x90 ≤ byte) ∧
      (first = 0xF4 → byte < 0x90) := by
  simp only [isSecondByte, isContinuation, Bool.and_eq_true, decide_eq_true_eq, Bool.not_eq_true',
    Bool.or_eq_false_iff, Bool.and_eq_false_imp, beq_iff_eq, decide_eq_false_iff_not, Nat.not_lt,
    Nat.not_le, and_assoc]

theorem mayFollow_later {first seen byte : Nat} (hSeen : seen ≠ 1)
    (h : mayFollow first seen byte = true) : 0x80 ≤ byte ∧ byte < 0xC0 := by
  rw [mayFollow, if_neg hSeen, isContinuation, Bool.and_eq_true, decide_eq_true_eq,
    decide_eq_true_eq] at h
  exact h

section

variable {a b c d : UInt8}

theorem utf8EncodeChar_one (ha : a.toNat < 0x80) :
    String.utf8EncodeChar (Char.ofNat a.toNat) = [a] := by
  rw [String.utf8EncodeChar, toNat_val_ofNat (by omega), if_pos (by omega), ofNat_eq_of_toNat rfl]

theorem utf8EncodeChar_two (ha : 0xC2 ≤ a.toNat ∧ a.toNat < 0xE0)
    (hb : isSecondByte a.toNat b.toNat = true) :
    String.utf8EncodeChar (Char.ofNat (a.toNat % 32 * 64 + b.toNat % 64)) = [a, b] := by
  rw [isSecondByte_iff] at hb
  rw [String.utf8EncodeChar, toNat_val_ofNat (by omega), if_neg (by omega), if_pos (by omega),
    ofNat_eq_of_toNat (x := a) (by omega), ofNat_eq_of_toNat (x := b) (by omega)]

theorem utf8EncodeChar_three (ha : 0xE0 ≤ a.toNat ∧ a.toNat < 0xF0)
    (hb : isSecondByte a.toNat b.toNat = true) (hc : 0x80 ≤ c.toNat ∧ c.toNat < 0xC0) :
    String.utf8EncodeChar (Char.ofNat ((a.toNat % 16 * 64 + b.toNat % 64) * 64 + c.toNat % 64)) =
      [a, b, c] := by
  rw [isSecondByte_iff] at hb
  rw [String.utf8EncodeChar, toNat_val_ofNat (by omega), if_neg (by omega), if_neg (by omega),
    if_pos (by omega), ofNat_eq_of_toNat (x := a) (by omega),
    ofNat_eq_of_toNat (x := b) (by omega), ofNat_eq_of_toNat (x := c) (by omega)]

theorem utf8EncodeChar_four (ha : 0xF0 ≤ a.toNat ∧ a.toNat < 0xF5)
    (hb : isSecondByte a.toNat b.toNat = true) (hc : 0x80 ≤ c.toNat ∧ c.toNat < 0xC0)
    (hd : 0x80 ≤ d.toNat ∧ d.toNat < 0xC0) :
    String.utf8EncodeChar (Char.ofNat
      (((a.toNat % 8 * 64 + b.toNat % 64) * 64 + c.toNat % 64) * 64 + d.toNat % 64)) =
      [a, b, c, d] := by
  rw [isSecondByte_iff] at hb
  rw [String.utf8EncodeChar, toNat_val_ofNat (by omega), if_neg (by omega), if_neg (by omega),
    if_neg (by omega), ofNat_eq_of_toNat (x := a) (by omega),
    ofNat_eq_of_toNat (x := b) (by omega), ofNat_eq_of_toNat (x := c) (by omega),
    ofNat_eq_of_toNat (x := d) (by omega)]

end

theorem utf8EncodeChar_of_scanChar (h : scanChar first bytes = .char c n) :
    String.utf8EncodeChar c = (first :: bytes).take n := by
  unfold scanChar at h
  split at h
  · cases h
  · next width hWidth =>
    have hCases : width = 0 ∧ first.toNat < 0x80 ∨
        width = 1 ∧ 0xC2 ≤ first.toNat ∧ first.toNat < 0xE0 ∨
        width = 2 ∧ 0xE0 ≤ first.toNat ∧ first.toNat < 0xF0 ∨
        width = 3 ∧ 0xF0 ≤ first.toNat ∧ first.toNat < 0xF5 := by
      grind [utf8CharWidth]
    rcases hCases with ⟨rfl, ha⟩ | ⟨rfl, ha⟩ | ⟨rfl, ha⟩ | ⟨rfl, ha⟩
    · have hLead : leadValue first.toNat = first.toNat := by grind [leadValue]
      rw [scanRest, hLead] at h
      cases h
      exact utf8EncodeChar_one ha
    · have hLead : leadValue first.toNat = first.toNat % 32 := by grind [leadValue]
      obtain ⟨b, bytes, rfl, hb, h⟩ := scanRest_one h
      rw [scanRest, hLead] at h
      cases h
      exact utf8EncodeChar_two ha hb
    · have hLead : leadValue first.toNat = first.toNat % 16 := by grind [leadValue]
      obtain ⟨b, bytes, rfl, hb, h⟩ := scanRest_one h
      obtain ⟨d, bytes, rfl, hd, h⟩ := scanRest_one h
      rw [scanRest, hLead] at h
      cases h
      exact utf8EncodeChar_three ha hb (mayFollow_later (by decide) hd)
    · have hLead : leadValue first.toNat = first.toNat % 8 := by grind [leadValue]
      obtain ⟨b, bytes, rfl, hb, h⟩ := scanRest_one h
      obtain ⟨d, bytes, rfl, hd, h⟩ := scanRest_one h
      obtain ⟨e, bytes, rfl, he, h⟩ := scanRest_one h
      rw [scanRest, hLead] at h
      cases h
      exact utf8EncodeChar_four ha hb (mayFollow_later (by decide) hd)
        (mayFollow_later (by decide) he)

/-- Valid bytes are the bytes of their text. -/
theorem utf8Bytes_of_fromUtf8 {chars : List Char} (h : fromUtf8 bytes = .ok chars) :
    utf8Bytes chars = bytes := by
  have hLength : ∀ (n : Nat) (bytes : List UInt8) (chars : List Char), bytes.length ≤ n →
      fromUtf8 bytes = .ok chars → utf8Bytes chars = bytes := by
    intro n
    induction n with
    | zero =>
      intro bytes chars hLe hRead
      rw [List.eq_nil_of_length_eq_zero (Nat.le_zero.mp hLe)] at hRead ⊢
      cases hRead
      rfl
    | succ n ih =>
      intro bytes chars hLe hRead
      cases bytes with
      | nil =>
        cases hRead
        rfl
      | cons byte bytes =>
        cases hScan : scanChar byte bytes with
        | invalid k =>
          rw [fromUtf8, fromUtf8After, hScan] at hRead
          cases hRead
        | incomplete =>
          rw [fromUtf8, fromUtf8After, hScan] at hRead
          cases hRead
        | char c k =>
          obtain ⟨m, rfl⟩ : ∃ m, k = m + 1 :=
            ⟨k - 1, by have := (scanChar_length.1 c k hScan).1; omega⟩
          rw [fromUtf8_char hScan, Nat.add_sub_cancel] at hRead
          cases hRest : fromUtf8 (bytes.drop m) with
          | error e =>
            rw [hRest] at hRead
            cases hRead
          | ok rest =>
            rw [hRest] at hRead
            cases hRead
            have hShorter : (bytes.drop m).length ≤ n := by
              rw [List.length_cons] at hLe
              rw [List.length_drop]
              omega
            rw [utf8Bytes, List.flatMap_cons, ← utf8Bytes, ih _ rest hShorter hRest,
              utf8EncodeChar_of_scanChar hScan, List.take_succ_cons, List.cons_append,
              List.take_append_drop]
  exact hLength bytes.length bytes chars (Nat.le_refl _) h

end WaitAgent.Verified
