import Mathlib.Algebra.Group.Nat.Defs
import Mathlib.Data.List.Basic

/-!
# Bytes on a wire

A stream is read in pieces of any size; `read_exact` takes pieces until it has
the bytes it was asked for.  `Encodes m bytes a` says that the reader `m` takes
exactly these bytes off any stream that begins with them, in whatever pieces they
come, and returns `a`; the rules below follow the shape of readers.  Writers are
lists of parts, each of which may be refused, and `Decodes` relates a writer to
its reader: whatever is written is read back, field after field.

`Returns m P` is the other direction: whatever the stream is, what is accepted
meets `P`.

Integers are little-endian, or big-endian where the name says so.
-/

namespace WaitAgent.Verified

/-! ## Little-endian integers -/

def leBytes : (width : Nat) → Nat → List UInt8
  | 0, _ => []
  | width + 1, n => UInt8.ofNat n :: leBytes width (n / 256)

def leValue : List UInt8 → Nat
  | [] => 0
  | byte :: bytes => byte.toNat + 256 * leValue bytes

@[simp] theorem length_leBytes (width n : Nat) : (leBytes width n).length = width := by
  induction width generalizing n with
  | zero => rfl
  | succ width ih => rw [leBytes, List.length_cons, ih]

theorem leValue_leBytes (width n : Nat) (h : n < 256 ^ width) :
    leValue (leBytes width n) = n := by
  induction width generalizing n with
  | zero =>
    rw [Nat.pow_zero] at h
    rw [leBytes, leValue]
    omega
  | succ width ih =>
    have hDiv : n / 256 < 256 ^ width := by
      rw [Nat.pow_succ] at h
      omega
    have hByte : (UInt8.ofNat n).toNat = n % 256 := UInt8.toNat_ofNat'
    rw [leBytes, leValue, ih _ hDiv, hByte]
    omega

theorem leValue_lt (bytes : List UInt8) : leValue bytes < 256 ^ bytes.length := by
  induction bytes with
  | nil => exact Nat.one_pos
  | cons byte bytes ih =>
    have hByte : byte.toNat < 256 := byte.toNat_lt
    rw [leValue, List.length_cons, Nat.pow_succ]
    omega

theorem leBytes_leValue (bytes : List UInt8) : leBytes bytes.length (leValue bytes) = bytes := by
  induction bytes with
  | nil => rfl
  | cons byte bytes ih =>
    have hByte : byte.toNat < 256 := byte.toNat_lt
    have hDiv : (byte.toNat + 256 * leValue bytes) / 256 = leValue bytes := by omega
    have hLow : UInt8.ofNat (byte.toNat + 256 * leValue bytes) = byte := by
      apply UInt8.toNat_inj.mp
      rw [UInt8.toNat_ofNat']
      omega
    rw [List.length_cons, leBytes, leValue, hDiv, ih, hLow]

/-! ## Big-endian integers -/

def beBytes (width n : Nat) : List UInt8 :=
  (leBytes width n).reverse

def beValue (bytes : List UInt8) : Nat :=
  leValue bytes.reverse

@[simp] theorem length_beBytes (width n : Nat) : (beBytes width n).length = width := by
  rw [beBytes, List.length_reverse, length_leBytes]

theorem beValue_beBytes (width n : Nat) (h : n < 256 ^ width) :
    beValue (beBytes width n) = n := by
  rw [beValue, beBytes, List.reverse_reverse, leValue_leBytes width n h]

theorem beValue_lt (bytes : List UInt8) : beValue bytes < 256 ^ bytes.length := by
  have hLt := leValue_lt bytes.reverse
  rwa [List.length_reverse] at hLt

theorem beBytes_beValue {bytes : List UInt8} {width : Nat} (h : bytes.length = width) :
    beBytes width (beValue bytes) = bytes := by
  have hBack := leBytes_leValue bytes.reverse
  rw [List.length_reverse, h] at hBack
  rw [beBytes, beValue, hBack, List.reverse_reverse]

/-! ## Streams -/

/-- A stream, as the pieces in which it is delivered.  An empty piece stands for
a part of a chain of readers that is used up, and is passed over. -/
abbrev Pieces := List (List UInt8)

/-- The first `n` bytes, and the stream after them. -/
def takeExact (n : Nat) : Pieces → Option (List UInt8 × Pieces)
  | [] => if n = 0 then some ([], []) else none
  | piece :: pieces =>
      if n ≤ piece.length then
        some (piece.take n, piece.drop n :: pieces)
      else
        (takeExact (n - piece.length) pieces).map fun (bytes, pieces) => (piece ++ bytes, pieces)

/-- The bytes come whole, in whatever pieces they were delivered. -/
theorem takeExact_append {pieces : Pieces} :
    ∀ {bytes rest : List UInt8}, pieces.flatten = bytes ++ rest →
      ∃ pieces', takeExact bytes.length pieces = some (bytes, pieces') ∧
        pieces'.flatten = rest := by
  induction pieces with
  | nil =>
    intro bytes rest hFlatten
    rw [List.flatten_nil, eq_comm, List.append_eq_nil_iff] at hFlatten
    rw [hFlatten.1, hFlatten.2]
    exact ⟨[], rfl, rfl⟩
  | cons piece pieces ih =>
    intro bytes rest hFlatten
    rw [List.flatten_cons] at hFlatten
    rw [takeExact]
    by_cases hLe : bytes.length ≤ piece.length
    · -- the bytes are within the first piece
      obtain ⟨more, rfl⟩ : bytes <+: piece :=
        List.prefix_of_prefix_length_le ⟨rest, rfl⟩ ⟨pieces.flatten, hFlatten⟩ hLe
      rw [List.append_assoc, List.append_cancel_left_eq] at hFlatten
      rw [if_pos hLe, List.take_left, List.drop_left]
      exact ⟨more :: pieces, rfl, hFlatten⟩
    · obtain ⟨more, rfl⟩ : piece <+: bytes :=
        List.prefix_of_prefix_length_le ⟨pieces.flatten, hFlatten⟩ ⟨rest, rfl⟩ (by omega)
      rw [List.append_assoc, List.append_cancel_left_eq] at hFlatten
      obtain ⟨pieces', hTake, hRest⟩ := ih hFlatten
      rw [if_neg hLe, List.length_append, Nat.add_sub_cancel_left, hTake]
      exact ⟨pieces', rfl, hRest⟩

theorem takeExact_eq_none {pieces : Pieces} :
    ∀ {n : Nat}, pieces.flatten.length < n → takeExact n pieces = none := by
  induction pieces with
  | nil =>
    intro n hShort
    rw [takeExact, if_neg (Nat.ne_of_gt (Nat.zero_lt_of_lt hShort))]
  | cons piece pieces ih =>
    intro n hShort
    rw [List.flatten_cons, List.length_append] at hShort
    rw [takeExact, if_neg (by omega), ih (by omega)]
    rfl

/-! ## Readers -/

/-- A reader of a stream, which can fail. -/
abbrev ByteReader (ε : Type) := StateT Pieces (Except ε)

section

variable {ε α β : Type} {m : ByteReader ε α} {f : α → ByteReader ε β}
  {a : α} {b : β} {bytes more : List UInt8}

def readExact (eof : ε) (n : Nat) : ByteReader ε (List UInt8) := fun pieces =>
  match takeExact n pieces with
  | some r => .ok r
  | none => .error eof

theorem run_bind_of_ok {pieces pieces' : Pieces} (h : m.run pieces = .ok (a, pieces')) :
    (m >>= f).run pieces = (f a).run pieces' := by
  rw [StateT.run_bind, h]
  rfl

/-- The reader takes these bytes off a stream and returns the value. -/
def Encodes (m : ByteReader ε α) (bytes : List UInt8) (a : α) : Prop :=
  ∀ (pieces : Pieces) (rest : List UInt8), pieces.flatten = bytes ++ rest →
    ∃ pieces', m.run pieces = .ok (a, pieces') ∧ pieces'.flatten = rest

theorem encodes_pure (a : α) : Encodes (pure a : ByteReader ε α) [] a :=
  fun pieces _ hFlatten => ⟨pieces, rfl, hFlatten⟩

theorem Encodes.bind (hm : Encodes m bytes a) (hf : Encodes (f a) more b) :
    Encodes (m >>= f) (bytes ++ more) b := by
  intro pieces rest hFlatten
  rw [List.append_assoc] at hFlatten
  obtain ⟨pieces', hRun, hMore⟩ := hm pieces _ hFlatten
  obtain ⟨pieces'', hRun', hRest⟩ := hf pieces' rest hMore
  rw [run_bind_of_ok hRun]
  exact ⟨pieces'', hRun', hRest⟩

/-- A value made of what was read. -/
theorem Encodes.last (hm : Encodes m bytes a) (hf : f a = pure b) :
    Encodes (m >>= f) bytes b := by
  have hPure : Encodes (f a) [] b := by
    rw [hf]
    exact encodes_pure b
  have hBind := hm.bind hPure
  rwa [List.append_nil] at hBind

theorem encodes_readExact (eof : ε) (bytes : List UInt8) :
    Encodes (readExact eof bytes.length) bytes bytes := by
  intro pieces rest hFlatten
  obtain ⟨pieces', hTake, hRest⟩ := takeExact_append hFlatten
  refine ⟨pieces', ?_, hRest⟩
  change readExact eof bytes.length pieces = _
  rw [readExact, hTake]

/-! ## What readers accept -/

/-- Whatever the stream is, what the reader returns meets `P`. -/
def Returns (m : ByteReader ε α) (P : α → Prop) : Prop :=
  ∀ pieces r, m.run pieces = .ok r → P r.1

theorem returns_pure {P : α → Prop} (h : P a) : Returns (pure a : ByteReader ε α) P := by
  intro pieces r hRun
  cases hRun
  exact h

theorem returns_throw {P : α → Prop} (e : ε) : Returns (throw e : ByteReader ε α) P := by
  intro pieces r hRun
  cases hRun

theorem returns_any (m : ByteReader ε α) : Returns m fun _ => True :=
  fun _ _ _ => trivial

theorem Returns.bind {P : α → Prop} {Q : β → Prop} (hm : Returns m P)
    (hf : ∀ a, P a → Returns (f a) Q) : Returns (m >>= f) Q := by
  intro pieces r hRun
  rw [StateT.run_bind] at hRun
  cases hFirst : m.run pieces with
  | error e =>
    rw [hFirst] at hRun
    cases hRun
  | ok first =>
    rw [hFirst] at hRun
    exact hf first.1 (hm pieces first hFirst) first.2 r hRun

/-- A field that does not matter. -/
theorem returns_skip {Q : β → Prop} (hf : ∀ a, Returns (f a) Q) : Returns (m >>= f) Q :=
  (returns_any m).bind fun a _ => hf a

/-- A reader that takes the bytes returns only what it accepts. -/
theorem Encodes.returns {P : α → Prop} (h : Encodes m bytes a) (hm : Returns m P) : P a := by
  obtain ⟨pieces', hRun, -⟩ := h [bytes] [] (by simp)
  exact hm _ _ hRun

end

/-! ## Writers -/

section

variable {ε α β : Type}

/-- The parts, one after another, unless one of them is refused. -/
def writeAll : List (Except ε (List UInt8)) → Except ε (List UInt8)
  | [] => .ok []
  | part :: parts => do
      let bytes ← part
      let more ← writeAll parts
      return bytes ++ more

/-- What is written, if it is, is read back. -/
def Decodes (w : Except ε (List UInt8)) (m : ByteReader ε α) (a : α) : Prop :=
  ∀ bytes, w = .ok bytes → Encodes m bytes a

theorem decodes_nil (a : α) : Decodes (writeAll []) (pure a : ByteReader ε α) a := by
  intro bytes hBytes
  cases hBytes
  exact encodes_pure a

theorem writeAll_cons {part : Except ε (List UInt8)} {parts : List (Except ε (List UInt8))}
    {bytes : List UInt8} (h : writeAll (part :: parts) = .ok bytes) :
    ∃ first rest, part = .ok first ∧ writeAll parts = .ok rest ∧ bytes = first ++ rest := by
  unfold writeAll at h
  cases hPart : part with
  | error e =>
    rw [hPart] at h
    cases h
  | ok first =>
    cases hParts : writeAll parts with
    | error e =>
      rw [hPart, hParts] at h
      cases h
    | ok rest =>
      rw [hPart, hParts] at h
      cases h
      exact ⟨first, rest, rfl, rfl, rfl⟩

/-- A field, and those after it. -/
theorem Decodes.cons {w : Except ε (List UInt8)} {ws : List (Except ε (List UInt8))}
    {m : ByteReader ε α} {f : α → ByteReader ε β} {a : α} {b : β} (hm : Decodes w m a)
    (hf : Decodes (writeAll ws) (f a) b) : Decodes (writeAll (w :: ws)) (m >>= f) b := by
  intro bytes hBytes
  obtain ⟨first, rest, hFirst, hRest, rfl⟩ := writeAll_cons hBytes
  exact (hm first hFirst).bind (hf rest hRest)

theorem Decodes.last {w : Except ε (List UInt8)} {m : ByteReader ε α} {f : α → ByteReader ε β}
    {a : α} {b : β} (hm : Decodes w m a) (hf : f a = pure b) : Decodes w (m >>= f) b :=
  fun bytes hBytes => (hm bytes hBytes).last hf

/-- A writer with one part. -/
theorem Decodes.single {w : Except ε (List UInt8)} {m : ByteReader ε α} {a : α}
    (hm : Decodes w m a) : Decodes (writeAll [w]) m a := by
  intro bytes hBytes
  obtain ⟨first, rest, hFirst, hRest, rfl⟩ := writeAll_cons hBytes
  cases hRest
  rw [List.append_nil]
  exact hm first hFirst

end

/-! ## One after another -/

section

variable {ε α : Type} {m : ByteReader ε α}

def readMany (m : ByteReader ε α) : Nat → ByteReader ε (List α)
  | 0 => pure []
  | n + 1 => do
      let first ← m
      let others ← readMany m n
      return first :: others

theorem encodes_readMany {encodings : List (List UInt8)} {values : List α}
    (h : List.Forall₂ (Encodes m) encodings values) :
    Encodes (readMany m values.length) encodings.flatten values := by
  induction h with
  | nil => exact encodes_pure []
  | cons hFirst _ ih => exact hFirst.bind (ih.last rfl)

theorem returns_readMany {P : α → Prop} (hm : Returns m P) (n : Nat) :
    Returns (readMany m n) fun values => ∀ a ∈ values, P a := by
  induction n with
  | zero => exact returns_pure fun a ha => by cases ha
  | succ n ih =>
    refine hm.bind fun first hFirst => ih.bind fun others hOthers => returns_pure ?_
    exact List.forall_mem_cons.mpr ⟨hFirst, hOthers⟩

end

end WaitAgent.Verified
