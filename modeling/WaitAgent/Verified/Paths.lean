import WaitAgent.Verified.Lines

/-!
# Paths

The parts of a path as the standard library takes them on Unix: the last component,
its stem and its extension, and a name put behind a directory.  No part of a file name
has a separator in it, and a name without a separator stays in its directory.
-/

namespace WaitAgent.Verified

theorem notMem_of_mem_splitOn {α : Type*} [DecidableEq α] {c : α} {l part : List α}
    (h : part ∈ l.splitOn c) : c ∉ part := by
  induction l generalizing part with
  | nil =>
    rw [List.splitOn_nil, List.mem_singleton] at h
    simp [h]
  | cons a l ih =>
    rw [List.splitOn_cons_eq_if_modifyHead] at h
    split at h
    · obtain rfl | hMem := List.mem_cons.mp h
      · simp
      · exact ih hMem
    · next hNe =>
      cases hSplit : l.splitOn c with
      | nil => simp [hSplit] at h
      | cons first rest =>
        rw [hSplit] at ih h
        rw [List.modifyHead_cons, List.mem_cons] at h
        obtain rfl | hMem := h
        · rw [List.mem_cons, not_or]
          exact ⟨fun hEq => hNe (by simp [hEq]), ih List.mem_cons_self⟩
        · exact ih (List.mem_cons_of_mem _ hMem)

/-! ## File names -/

/-- `Path::file_name`: the last component, unless it leads upwards. -/
def fileName (path : String) : Option String :=
  ((splitChar '/' path).filter fun part => part ≠ "" ∧ part ≠ ".").getLast?.filter (· ≠ "..")

/-- Stem and extension: a dot at the front begins no extension. -/
def rsplitFileAtDot (file : String) : String × Option String :=
  if file = ".." then (file, none)
  else
    match rsplitOnce '.' file with
    | some (before, after) => if before = "" then (file, none) else (before, some after)
    | none => (file, none)

/-- `Path::file_stem`. -/
def fileStem (path : String) : Option String :=
  (fileName path).map fun file => (rsplitFileAtDot file).1

/-- `Path::extension`. -/
def fileExtension (path : String) : Option String :=
  (fileName path).bind fun file => (rsplitFileAtDot file).2

theorem notMem_fileName {path file : String} (h : fileName path = some file) :
    '/' ∉ file.toList := by
  obtain ⟨hLast, -⟩ := Option.filter_eq_some_iff.mp h
  have hMem := List.mem_of_mem_filter (List.mem_of_getLast? hLast)
  obtain ⟨part, hPart, rfl⟩ := List.mem_map.mp hMem
  rw [String.toList_ofList]
  exact notMem_of_mem_splitOn hPart

theorem eq_append_of_rsplitOnce {c : Char} {s before after : String}
    (h : rsplitOnce c s = some (before, after)) :
    s.toList = before.toList ++ c :: after.toList ∧ c ∉ after.toList := by
  obtain ⟨parts, hSplit, hParts⟩ := Option.map_eq_some_iff.mp h
  obtain ⟨rfl, rfl⟩ := Prod.mk.inj hParts
  rw [String.toList_ofList, String.toList_ofList]
  exact eq_append_of_rsplitOnceList hSplit

theorem mem_of_mem_stem {file : String} {c : Char} (h : c ∈ (rsplitFileAtDot file).1.toList) :
    c ∈ file.toList := by
  unfold rsplitFileAtDot at h
  split at h
  · exact h
  · split at h
    · next before after hSplit =>
      split at h
      · exact h
      · rw [(eq_append_of_rsplitOnce hSplit).1]
        exact List.mem_append_left _ h
    · exact h

/-- An extension is part of its file name and has no dot. -/
theorem of_extension {file extension : String} (h : (rsplitFileAtDot file).2 = some extension) :
    (∀ c ∈ extension.toList, c ∈ file.toList) ∧ '.' ∉ extension.toList := by
  unfold rsplitFileAtDot at h
  split at h
  · cases h
  · split at h
    · next before after hSplit =>
      split at h
      · cases h
      · obtain rfl := Option.some.inj h
        obtain ⟨hFile, hDot⟩ := eq_append_of_rsplitOnce hSplit
        refine ⟨fun c hc => ?_, hDot⟩
        rw [hFile]
        exact List.mem_append_right _ (List.mem_cons_of_mem _ hc)
    · cases h

theorem notMem_fileStem {path stem : String} (h : fileStem path = some stem) :
    '/' ∉ stem.toList := by
  obtain ⟨file, hFile, rfl⟩ := Option.map_eq_some_iff.mp h
  exact fun hMem => notMem_fileName hFile (mem_of_mem_stem hMem)

theorem notMem_fileExtension {path extension : String} (h : fileExtension path = some extension) :
    '/' ∉ extension.toList ∧ '.' ∉ extension.toList := by
  obtain ⟨file, hFile, hExtension⟩ := Option.bind_eq_some_iff.mp h
  obtain ⟨hMem, hDot⟩ := of_extension hExtension
  exact ⟨fun hSlash => notMem_fileName hFile (hMem _ hSlash), hDot⟩

/-! ## Directories -/

/-- `Path::join`: an absolute name replaces the directory. -/
def joinPath (dir name : String) : String :=
  if name.toList.head? = some '/' then name
  else if dir = "" ∨ dir.toList.getLast? = some '/' then dir ++ name
  else dir ++ "/" ++ name

/-- The path is one of an entry of the directory itself. -/
def DirectChild (dir path : String) : Prop :=
  ∃ name : String, path = dir ++ "/" ++ name ∧ '/' ∉ name.toList ∧ name ≠ "" ∧ name ≠ "." ∧
    name ≠ ".."

end WaitAgent.Verified
