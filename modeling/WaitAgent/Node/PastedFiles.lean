import WaitAgent.Node.ClipboardCache
import WaitAgent.Verified.Words

/-!
# Pasted files stay in their cache

The path of a pasted file is that of an entry of the cache directory, whatever the hint
(`directChild_cachedPath`).  Two files get the same name exactly if the parts of their
names agree or one hint imitates the name of the other file (`NameParts.name_eq_iff`), and
a reference has control characters exactly if the extension or the directory has.
-/

namespace WaitAgent.Node

open Verified

open Terminal (isControl)

/-! ## The parts of a name -/

/-- The cleaned stem, the random part and the extension, which is empty if there is
none. -/
structure NameParts where
  stem : List Char
  suffix : List Char
  ext : List Char
  dash_suffix : '-' ∉ suffix
  dot_suffix : '.' ∉ suffix
  dot_ext : '.' ∉ ext

namespace NameParts

def name (p : NameParts) : List Char :=
  p.stem ++ '-' :: p.suffix ++ if p.ext = [] then [] else '.' :: p.ext

/-- The stem of one file reads like stem, random part and the front of the extension of
the other one. -/
def Imitates (p q : NameParts) : Prop :=
  p.ext = [] ∧ q.ext ≠ [] ∧
    ∃ front, p.stem = q.stem ++ '-' :: q.suffix ++ '.' :: front ∧ q.ext = front ++ '-' :: p.suffix

def Collides (p q : NameParts) : Prop :=
  (p.stem = q.stem ∧ p.suffix = q.suffix ∧ p.ext = q.ext) ∨ p.Imitates q ∨ q.Imitates p

variable {p q : NameParts}

/-- Before the extension, a name is cut at its last dash. -/
theorem stem_inj (h : p.stem ++ '-' :: p.suffix = q.stem ++ '-' :: q.suffix) :
    p.stem = q.stem ∧ p.suffix = q.suffix := by
  have hCut := congrArg (rsplitOnceList '-') h
  rw [rsplitOnceList_append p.dash_suffix, rsplitOnceList_append q.dash_suffix, Option.some.injEq,
    Prod.mk.injEq] at hCut
  exact hCut

theorem Imitates.name_eq (h : p.Imitates q) : p.name = q.name := by
  obtain ⟨hNone, hSome, front, hStem, hExt⟩ := h
  rw [name, name, if_pos hNone, if_neg hSome, hStem, hExt]
  simp

theorem imitates_of_name_eq (hNone : p.ext = []) (hSome : q.ext ≠ [])
    (h : p.stem ++ '-' :: p.suffix = q.stem ++ '-' :: q.suffix ++ '.' :: q.ext) : p.Imitates q := by
  have hCut := congrArg (rsplitOnceList '-') h
  rw [rsplitOnceList_append p.dash_suffix] at hCut
  cases hDash : rsplitOnceList '-' q.ext with
  | none =>
    -- then the last dash of the name is the one before the random part
    have hPlain : '-' ∉ q.suffix ++ '.' :: q.ext := by
      simp [q.dash_suffix, rsplitOnceList_eq_none_iff.mp hDash]
    rw [List.append_assoc, List.cons_append, rsplitOnceList_append hPlain, Option.some.injEq,
      Prod.mk.injEq] at hCut
    exact absurd (by rw [hCut.2]; simp) p.dot_suffix
  | some parts =>
    obtain ⟨hExt, hLast⟩ := eq_append_of_rsplitOnceList hDash
    have hWhole : q.stem ++ '-' :: q.suffix ++ '.' :: q.ext =
        (q.stem ++ '-' :: q.suffix ++ '.' :: parts.1) ++ '-' :: parts.2 := by
      rw [hExt]
      simp
    rw [hWhole, rsplitOnceList_append hLast, Option.some.injEq, Prod.mk.injEq] at hCut
    exact ⟨hNone, hSome, parts.1, hCut.1, by rw [hExt, hCut.2]⟩

/-- Two names are the same exactly if their parts collide. -/
theorem name_eq_iff : p.name = q.name ↔ p.Collides q := by
  constructor
  · intro h
    rw [name, name] at h
    by_cases hp : p.ext = [] <;> by_cases hq : q.ext = []
    · rw [if_pos hp, if_pos hq, List.append_nil, List.append_nil] at h
      obtain ⟨hStem, hSuffix⟩ := stem_inj h
      exact .inl ⟨hStem, hSuffix, hp.trans hq.symm⟩
    · rw [if_pos hp, if_neg hq, List.append_nil] at h
      exact .inr (.inl (imitates_of_name_eq hp hq h))
    · rw [if_neg hp, if_pos hq, List.append_nil] at h
      exact .inr (.inr (imitates_of_name_eq hq hp h.symm))
    · rw [if_neg hp, if_neg hq] at h
      have hCut := congrArg (rsplitOnceList '.') h
      rw [rsplitOnceList_append p.dot_ext, rsplitOnceList_append q.dot_ext, Option.some.injEq,
        Prod.mk.injEq] at hCut
      obtain ⟨hStem, hSuffix⟩ := stem_inj hCut.1
      exact .inl ⟨hStem, hSuffix, hCut.2⟩
  · rintro (⟨hStem, hSuffix, hExt⟩ | hImitates | hImitates)
    · rw [name, name, hStem, hSuffix, hExt]
    · exact hImitates.name_eq
    · exact hImitates.name_eq.symm

end NameParts

/-! ## The name of a file -/

/-- A character of a random part. -/
def IsPlain (c : Char) : Prop :=
  c ≠ '-' ∧ c ≠ '.' ∧ c ≠ '/' ∧ isControl c = false

instance (c : Char) : Decidable (IsPlain c) :=
  inferInstanceAs (Decidable (_ ∧ _ ∧ _ ∧ _))

theorem isPlain_of_isDigit {c : Char} (h : c.isDigit) : IsPlain c := by
  have hAll : ∀ n < 58, 48 ≤ n → IsPlain (Char.ofNat n) := by decide +kernel
  have hZero : '0'.toNat = 48 := rfl
  have hNine : '9'.toNat = 57 := rfl
  rw [Char.isDigit_iff_toNat] at h
  rw [← Char.ofNat_toNat c]
  exact hAll _ (by omega) (by omega)

theorem noControl_append {a b : String} : NoControl (a ++ b) ↔ NoControl a ∧ NoControl b := by
  simp only [NoControl, String.toList_append, List.forall_mem_append]

theorem isPlain_randomSuffix (entropy : Option (Vector UInt8 8)) (millis : Option Nat) :
    ∀ c ∈ (randomSuffix entropy millis).toList, IsPlain c := by
  cases entropy with
  | some bytes =>
    have hTable : ∀ n < 36, IsPlain (alphanum.getD n 'a') := by decide +kernel
    have hLength : alphanum.length = 36 := by decide
    intro c hc
    rw [randomSuffix, String.toList_ofList, List.mem_map] at hc
    obtain ⟨b, -, rfl⟩ := hc
    rw [hLength]
    exact hTable _ (Nat.mod_lt _ (by decide))
  | none =>
    cases millis with
    | some millis => exact fun c hc => isPlain_of_isDigit (isDigit_of_mem_toString hc)
    | none =>
      have hAll : (randomSuffix none none).toList.all (fun c => decide (IsPlain c)) = true := by
        decide +kernel
      simpa using hAll

theorem slash_sanitizeFilenameStem (name : String) : '/' ∉ (sanitizeFilenameStem name).toList := by
  intro hMem
  simp only [sanitizeFilenameStem] at hMem
  split at hMem
  · revert hMem
    decide
  · have hStem := mem_of_mem_trim hMem
    rw [String.toList_ofList] at hStem
    have hPart := List.mem_of_mem_filter hStem
    cases hFile : fileStem (trim name) with
    | none =>
      rw [hFile] at hPart
      revert hPart
      decide
    | some stem =>
      rw [hFile] at hPart
      exact notMem_fileStem hFile hPart

theorem noControl_sanitizeFilenameStem (name : String) : NoControl (sanitizeFilenameStem name) := by
  intro c hMem
  simp only [sanitizeFilenameStem] at hMem
  split at hMem
  · have hDefault : NoControl "paste" := by decide
    exact hDefault c hMem
  · have hStem := mem_of_mem_trim hMem
    rw [String.toList_ofList] at hStem
    have hKept := List.of_mem_filter hStem
    rw [Bool.and_eq_true, Bool.not_eq_true'] at hKept
    exact hKept.1

/-- The extension of the hint; empty if there is none. -/
def hintExtension (filenameHint : String) : String :=
  (fileExtension filenameHint).getD ""

variable (lower : Lowercase)

/-- The extension of the name; empty if there is none. -/
def cachedExtension (filenameHint : String) : String :=
  (extensionFromFilename lower filenameHint).getD ""

theorem cachedExtension_eq (filenameHint : String) :
    cachedExtension lower filenameHint = lower.toLowercase (hintExtension filenameHint) := by
  rw [cachedExtension, hintExtension, extensionFromFilename]
  cases fileExtension filenameHint with
  | none => exact ((lower.eq_empty_iff "").mpr rfl).symm
  | some ext => rfl

theorem notMem_hintExtension (filenameHint : String) :
    '/' ∉ (hintExtension filenameHint).toList ∧ '.' ∉ (hintExtension filenameHint).toList := by
  rw [hintExtension]
  cases hExt : fileExtension filenameHint with
  | none => decide
  | some ext => exact notMem_fileExtension hExt

namespace PastedFile

variable (file : PastedFile)

theorem isPlain_suffix : ∀ c ∈ file.suffix.toList, IsPlain c :=
  isPlain_randomSuffix file.entropy file.millis

def parts : NameParts where
  stem := (sanitizeFilenameStem file.filenameHint).toList
  suffix := file.suffix.toList
  ext := (cachedExtension lower file.filenameHint).toList
  dash_suffix hMem := (file.isPlain_suffix _ hMem).1 rfl
  dot_suffix hMem := (file.isPlain_suffix _ hMem).2.1 rfl
  dot_ext hMem := by
    rw [cachedExtension_eq] at hMem
    exact (notMem_hintExtension _).2 (lower.dot _ hMem)

/-- The name, with the extension if there is one. -/
theorem cachedName_eq :
    file.cachedName lower =
      sanitizeFilenameStem file.filenameHint ++ "-" ++ file.suffix ++
        if cachedExtension lower file.filenameHint = "" then ""
        else "." ++ cachedExtension lower file.filenameHint := by
  unfold cachedName uniqueCachedFilename cachedExtension
  split
  · next ext hExt =>
    rw [hExt, Option.getD_some]
    split
    · rw [String.append_empty]
    · rw [String.append_assoc]
  · next hExt => rw [hExt, Option.getD_none, if_pos rfl, String.append_empty]

theorem toList_cachedName : (file.cachedName lower).toList = (file.parts lower).name := by
  rw [cachedName_eq, NameParts.name]
  by_cases hEmpty : cachedExtension lower file.filenameHint = ""
  · simp [parts, hEmpty]
  · simp [parts, hEmpty]

theorem slash_cachedName : '/' ∉ (file.cachedName lower).toList := by
  have hStem := slash_sanitizeFilenameStem file.filenameHint
  have hSuffix : '/' ∉ file.suffix.toList := fun hMem => (file.isPlain_suffix _ hMem).2.2.1 rfl
  have hExt : '/' ∉ (cachedExtension lower file.filenameHint).toList := by
    rw [cachedExtension_eq]
    exact fun hMem => (notMem_hintExtension _).1 (lower.slash _ hMem)
  rw [toList_cachedName, NameParts.name]
  split <;> simp [parts, hStem, hSuffix, hExt]

theorem dash_mem_cachedName : '-' ∈ (file.cachedName lower).toList := by
  rw [toList_cachedName, NameParts.name]
  simp

/-- Only the extension brings control characters into a name. -/
theorem noControl_cachedName_iff :
    NoControl (file.cachedName lower) ↔ NoControl (hintExtension file.filenameHint) := by
  have hStem := noControl_sanitizeFilenameStem file.filenameHint
  have hSuffix : NoControl file.suffix := fun c hc => (file.isPlain_suffix c hc).2.2.2
  have hDash : NoControl "-" := by decide
  have hDot : NoControl "." := by decide
  have hEmpty : NoControl "" := by decide
  rw [← lower.noControl_iff (hintExtension _), ← cachedExtension_eq, cachedName_eq,
    noControl_append, noControl_append, noControl_append,
    and_iff_right ⟨⟨hStem, hDash⟩, hSuffix⟩]
  split
  · next hNone => rw [hNone]
  · rw [noControl_append, and_iff_right hDot]

end PastedFile

/-! ## Paths -/

theorem clipboardCacheDir_eq (tempDir : String) :
    ∃ parent, clipboardCacheDir tempDir = parent ++ "waitagent" ∧
      (NoControl parent ↔ NoControl tempDir) := by
  unfold clipboardCacheDir joinPath
  rw [if_neg (by decide)]
  split
  · exact ⟨tempDir, rfl, Iff.rfl⟩
  · have hSlash : NoControl "/" := by decide
    refine ⟨tempDir ++ "/", rfl, ?_⟩
    rw [noControl_append, and_iff_left hSlash]

theorem joinPath_clipboardCacheDir {tempDir name : String} (h : '/' ∉ name.toList) :
    joinPath (clipboardCacheDir tempDir) name = clipboardCacheDir tempDir ++ "/" ++ name := by
  obtain ⟨parent, hDir, -⟩ := clipboardCacheDir_eq tempDir
  have hHead : name.toList.head? ≠ some '/' := fun hSlash => h (List.mem_of_head? hSlash)
  have hLast : (clipboardCacheDir tempDir).toList.getLast? = some 't' := by
    rw [hDir, String.toList_append, List.getLast?_append]
    rfl
  have hOpen : ¬(clipboardCacheDir tempDir = "" ∨
      (clipboardCacheDir tempDir).toList.getLast? = some '/') := by
    rintro (hEmpty | hSlash)
    · rw [hEmpty] at hLast
      cases hLast
    · rw [hLast] at hSlash
      revert hSlash
      decide
  rw [joinPath, if_neg hHead, if_neg hOpen]

/-- The path of a file in the cache. -/
def PastedFile.cachedPath (tempDir : String) (file : PastedFile) : String :=
  clipboardCacheDir tempDir ++ "/" ++ file.cachedName lower

variable (tempDir : String) (file : PastedFile)

/-- Every hint gives the path of an entry of the cache directory. -/
theorem directChild_cachedPath :
    DirectChild (clipboardCacheDir tempDir) (file.cachedPath lower tempDir) := by
  have hDash := file.dash_mem_cachedName lower
  refine ⟨_, rfl, file.slash_cachedName lower, ?_, ?_, ?_⟩
  all_goals
    intro hName
    rw [hName] at hDash
    revert hDash
    decide

theorem noControl_cachedPath_iff :
    NoControl (file.cachedPath lower tempDir) ↔
      NoControl tempDir ∧ NoControl (hintExtension file.filenameHint) := by
  obtain ⟨parent, hDir, hParent⟩ := clipboardCacheDir_eq tempDir
  have hOwn : NoControl "waitagent" := by decide
  have hSlash : NoControl "/" := by decide
  rw [PastedFile.cachedPath, noControl_append, noControl_append, hDir, noControl_append,
    PastedFile.noControl_cachedName_iff, hParent, and_iff_left hOwn, and_iff_left hSlash]

/-- A reference adds no control character to a path. -/
theorem noControl_formatFileReference_iff {path : String} {supportsAt : Bool} :
    NoControl (formatFileReference path supportsAt) ↔ NoControl path := by
  have hAt : NoControl "@" := by decide
  have hOpen : NoControl "\"@" := by decide
  have hQuote : NoControl "\"" := by decide
  unfold formatFileReference
  split
  · rfl
  · split
    · rw [noControl_append, noControl_append, and_iff_right hOpen, and_iff_left hQuote]
    · rw [noControl_append, and_iff_right hAt]

/-! ## Receiving -/

/-- The operating system takes the file: its directory is there, and its path has no NUL. -/
def PastedFile.Stored : Prop :=
  file.dirCreated = true ∧ '\x00' ∉ (file.cachedPath lower tempDir).toList ∧
    file.fileWritten = true

theorem writeClipboardFile_eq_ok {path : String} :
    writeClipboardFile lower tempDir file = .ok path ↔
      file.Stored lower tempDir ∧ path = file.cachedPath lower tempDir := by
  have hJoin : joinPath (clipboardCacheDir tempDir) (file.cachedName lower) =
      file.cachedPath lower tempDir :=
    joinPath_clipboardCacheDir (file.slash_cachedName lower)
  simp only [writeClipboardFile, hJoin, PastedFile.Stored]
  cases file.dirCreated <;> cases file.fileWritten <;> grind

/-- The file is for a session of this node. -/
def PasteReceiver.Keeps : PasteReceiver → Prop
  | .client s target =>
      (s.sessions.get target).map (fun record => record.address.transport) = some .localNode
  | .viewer .. => True

/-- The session has a terminal that can be typed into. -/
def PasteReceiver.HasTerminal : PasteReceiver → Prop
  | .client s target =>
      (s.localSessions.lookup target).isSome = true ∨ (s.hostSessionIn target).isSome = true
  | .viewer .. => True

/-- What a receiver does with a file: if it is kept, it is written to its path in the cache,
and a reference to that path is typed if there is a terminal. -/
structure PasteResult.Refers (result : PasteResult) (path : String) (kept terminal : Prop) :
    Prop where
  written : ∀ written, result.path = some written ↔ kept ∧ written = path
  isSome_typed : result.typed.isSome = true ↔ kept ∧ terminal
  typed : ∀ typed, result.typed = some typed →
    ∃ supportsAt, typed.text = formatFileReference path supportsAt

namespace PasteResult.Refers

variable {outcome : CommandOutcome} {path : String} {kept terminal : Prop}

theorem nothing (h : ¬kept) : Refers { outcome } path kept terminal where
  written _ := by simp [h]
  isSome_typed := by simp [h]
  typed _ hTyped := by cases hTyped

theorem untyped (h : kept) (hTerminal : ¬terminal) :
    Refers { outcome, path := some path } path kept terminal where
  written _ := by simp [h, eq_comm]
  isSome_typed := by simp [hTerminal]
  typed _ hTyped := by cases hTyped

theorem reference (target : InputTarget) (supportsAt : Bool) (h : kept) (hTerminal : terminal) :
    Refers { outcome, path := some path,
             typed := some ⟨target, formatFileReference path supportsAt⟩ } path kept terminal where
  written _ := by simp [h, eq_comm]
  isSome_typed := by simp [h, hTerminal]
  typed _ hTyped := ⟨supportsAt, by rw [← Option.some.inj hTyped]⟩

end PasteResult.Refers

theorem PasteReceiver.refers_receive (receiver : PasteReceiver) :
    (receiver.receive lower tempDir file).Refers (file.cachedPath lower tempDir)
      (receiver.Keeps ∧ file.Stored lower tempDir) receiver.HasTerminal := by
  have hWrites := @writeClipboardFile_eq_ok lower tempDir file
  have hFails {error} (hError : writeClipboardFile lower tempDir file = .error error) :
      ¬file.Stored lower tempDir := by
    intro hStored
    rw [hWrites.mpr ⟨hStored, rfl⟩] at hError
    cases hError
  cases receiver with
  | client s target =>
    rw [receive, SharedState.handlePasteFile, Keeps, HasTerminal]
    split
    · next hNone => exact .nothing (by simp [hNone])
    · next record hRecord =>
      split
      · next hLocal =>
        have hKeeps : (s.sessions.get target).map (fun record => record.address.transport) =
            some .localNode := by
          rw [hRecord, Option.map_some, hLocal]
        split
        · next hError => exact .nothing fun h => hFails hError h.2
        · next path hWrite =>
          obtain ⟨hStored, rfl⟩ := hWrites.mp hWrite
          dsimp only
          split
          · next hOwn => exact .reference _ _ ⟨hKeeps, hStored⟩ (.inl hOwn)
          · next hOwn =>
            split
            · next hHost => exact .reference _ _ ⟨hKeeps, hStored⟩ (.inr (by rw [hHost]; rfl))
            · next hHost => exact .untyped ⟨hKeeps, hStored⟩ (by simp [hOwn, hHost])
      · next hPeer => exact .nothing (by simp [hRecord, hPeer])
  | viewer s sessionId foreground =>
    rw [receive, SharedState.hostPasteFile]
    split
    · next hError => exact .nothing fun h => hFails hError h.2
    · next path hWrite =>
      obtain ⟨hStored, rfl⟩ := hWrites.mp hWrite
      exact .reference _ _ ⟨trivial, hStored⟩ trivial

/-! ## The cache as a whole -/

/-- A paste: who received it, and the file. -/
abbrev Paste := PasteReceiver × PastedFile

def Paste.result (paste : Paste) : PasteResult :=
  paste.1.receive lower tempDir paste.2

/-- Files are written into the cache directory only, no two of them to one path, and
what is typed for them has no control character. -/
structure Confined (pastes : List Paste) : Prop where
  child : ∀ paste ∈ pastes, ∀ path, (paste.result lower tempDir).path = some path →
    DirectChild (clipboardCacheDir tempDir) path
  apart : pastes.Pairwise fun a b => ∀ path,
    (a.result lower tempDir).path = some path → (b.result lower tempDir).path ≠ some path
  clean : ∀ paste ∈ pastes, ∀ typed, (paste.result lower tempDir).typed = some typed →
    NoControl typed.text

/-- The file is for a session of this node, and the operating system takes it. -/
def Paste.Kept (paste : Paste) : Prop :=
  paste.1.Keeps ∧ paste.2.Stored lower tempDir

/-- The names of the kept files differ in their parts, and the extensions of those whose
session has a terminal have no control character; nor has the directory. -/
structure Distinguishable (pastes : List Paste) : Prop where
  apart : pastes.Pairwise fun a b => a.Kept lower tempDir → b.Kept lower tempDir →
    ¬(a.2.parts lower).Collides (b.2.parts lower)
  clean : ∀ paste ∈ pastes, paste.Kept lower tempDir → paste.1.HasTerminal →
    NoControl tempDir ∧ NoControl (hintExtension paste.2.filenameHint)

theorem cachedPath_eq_iff {f g : PastedFile} :
    f.cachedPath lower tempDir = g.cachedPath lower tempDir ↔
      (f.parts lower).Collides (g.parts lower) := by
  rw [← NameParts.name_eq_iff, ← PastedFile.toList_cachedName, ← PastedFile.toList_cachedName,
    String.toList_inj, PastedFile.cachedPath, PastedFile.cachedPath, String.append_right_inj]

variable {lower tempDir}

theorem Paste.path_eq_some {paste : Paste} {path : String} :
    (paste.result lower tempDir).path = some path ↔
      paste.Kept lower tempDir ∧ path = paste.2.cachedPath lower tempDir :=
  (paste.1.refers_receive lower tempDir paste.2).written path

/-- Two kept files are written to one path exactly if the parts of their names collide. -/
theorem Paste.apart_iff {a b : Paste} :
    (∀ path, (a.result lower tempDir).path = some path →
      (b.result lower tempDir).path ≠ some path) ↔
    (a.Kept lower tempDir → b.Kept lower tempDir →
      ¬(a.2.parts lower).Collides (b.2.parts lower)) := by
  simp only [ne_eq, Paste.path_eq_some]
  rw [← cachedPath_eq_iff lower tempDir]
  constructor
  · intro hApart ha hb hSame
    exact hApart _ ⟨ha, rfl⟩ ⟨hb, hSame⟩
  · rintro hApart path ⟨ha, rfl⟩ ⟨hb, hSame⟩
    exact hApart ha hb hSame

/-- What is typed for a paste is clean exactly if its path is. -/
theorem Paste.clean_iff {paste : Paste} :
    (∀ typed, (paste.result lower tempDir).typed = some typed → NoControl typed.text) ↔
      (paste.Kept lower tempDir → paste.1.HasTerminal →
        NoControl tempDir ∧ NoControl (hintExtension paste.2.filenameHint)) := by
  have hRefers := paste.1.refers_receive lower tempDir paste.2
  rw [← noControl_cachedPath_iff lower]
  constructor
  · intro hClean hKept hTerminal
    obtain ⟨typed, hTyped⟩ :=
      Option.isSome_iff_exists.mp (hRefers.isSome_typed.mpr ⟨hKept, hTerminal⟩)
    obtain ⟨supportsAt, hText⟩ := hRefers.typed typed hTyped
    have hNone := hClean typed hTyped
    rwa [hText, noControl_formatFileReference_iff] at hNone
  · intro hClean typed hTyped
    obtain ⟨supportsAt, hText⟩ := hRefers.typed typed hTyped
    obtain ⟨hKept, hTerminal⟩ := hRefers.isSome_typed.mp (Option.isSome_of_eq_some hTyped)
    rw [hText, noControl_formatFileReference_iff]
    exact hClean hKept hTerminal

/-- Pasted files are confined exactly if they can be told apart and their extensions are
clean. -/
theorem pasted_files_confined_iff (lower : Lowercase) (tempDir : String) (pastes : List Paste) :
    Confined lower tempDir pastes ↔ Distinguishable lower tempDir pastes := by
  constructor
  · intro h
    exact ⟨h.apart.imp Paste.apart_iff.mp,
      fun paste hPaste => Paste.clean_iff.mp (h.clean paste hPaste)⟩
  · intro h
    refine ⟨fun paste _ path hPath => ?_, h.apart.imp Paste.apart_iff.mpr,
      fun paste hPaste => Paste.clean_iff.mpr (h.clean paste hPaste)⟩
    rw [(Paste.path_eq_some.mp hPath).2]
    exact directChild_cachedPath lower tempDir paste.2

/-- A file of a remote viewer for the session `2`, with the clock for random bytes. -/
def viewerPaste (filenameHint : String) : Paste :=
  (.viewer { port := 7474 } "2" none,
    { filenameHint, bytes := [104, 105], entropy := none, millis := some 1700000000000,
      dirCreated := true, fileWritten := true })

/-- An extension types a command and its line break, and two files at one time are
written to one path. -/
theorem pasted_files_escape :
    ((viewerPaste "notes.txt\rls\r").result keepCase "/tmp").typed.map TypedText.text =
        some "/tmp/waitagent/notes-1700000000000.txt\rls\r" ∧
      ¬Confined keepCase "/tmp" [viewerPaste "notes.txt\rls\r"] ∧
      ¬Confined keepCase "/tmp" [viewerPaste "a.png", viewerPaste "a.png"] := by
  have hTyped : ((viewerPaste "notes.txt\rls\r").result keepCase "/tmp").typed.map TypedText.text =
      some "/tmp/waitagent/notes-1700000000000.txt\rls\r" := by
    decide +kernel
  have hPath : ((viewerPaste "a.png").result keepCase "/tmp").path =
      some "/tmp/waitagent/a-1700000000000.png" := by
    decide +kernel
  refine ⟨hTyped, fun h => ?_, fun h => ?_⟩
  · obtain ⟨typed, hSome, hText⟩ := Option.map_eq_some_iff.mp hTyped
    have hClean := h.clean _ List.mem_cons_self typed hSome
    rw [hText] at hClean
    revert hClean
    decide +kernel
  · exact List.rel_of_pairwise_cons h.apart List.mem_cons_self _ hPath hPath

end WaitAgent.Node
