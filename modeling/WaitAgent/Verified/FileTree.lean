import WaitAgent.Verified.HashMap
import WaitAgent.Verified.Paths

/-!
# A tree of files

Files and directories by the names that lead to them from the root, without links.  A
path is walked part by part, as the operating system does it: each step needs a
directory to start from, a dot stays and two dots go up.  Removing and writing a file
touch the one place that the path leads to.
-/

namespace WaitAgent.Verified

/-- A place in the tree: the names from the root. -/
abbrev Place := List String

structure FileTree where
  isDir : Place → Bool
  files : HashMap Place String
  cwd : Place := []

inductive FileError where
  | notFound
  | notADirectory
  | isADirectory
  | invalidInput
  deriving DecidableEq

namespace FileTree

variable (t : FileTree)

/-- One part of a path. -/
def enter (place : Place) (part : String) : Place :=
  if part = "" ∨ part = "." then place
  else if part = ".." then place.dropLast
  else place ++ [part]

def walk : Place → List String → Except FileError Place
  | place, [] => .ok place
  | place, part :: parts =>
      if t.isDir place then walk (enter place part) parts
      else if place ∈ t.files then .error .notADirectory
      else .error .notFound

/-- Where the walk of a path begins. -/
def origin (cwd : Place) (path : String) : Place :=
  if path.toList.head? = some '/' then [] else cwd

/-- The place that a path leads to. -/
def resolve (path : String) : Except FileError Place :=
  if '\x00' ∈ path.toList then .error .invalidInput
  else t.walk (origin t.cwd path) (splitChar '/' path)

/-- `fs::remove_file`. -/
def removeFile (path : String) : Except FileError FileTree :=
  t.resolve path >>= fun place =>
    if t.isDir place then .error .isADirectory
    else if place ∈ t.files then .ok { t with files := t.files.erase place }
    else .error .notFound

/-- `fs::write`. -/
def writeFile (path text : String) : Except FileError FileTree :=
  t.resolve path >>= fun place =>
    if t.isDir place then .error .isADirectory
    else .ok { t with files := t.files.insert place text }

/-- The place that a path names, whether or not there is anything on the way. -/
def lexical (cwd : Place) (path : String) : Place :=
  (splitChar '/' path).foldl enter (origin cwd path)

/-- The places that have to be directories on the way. -/
def way : Place → List String → List Place
  | _, [] => []
  | place, part :: parts => place :: way (enter place part) parts

/-- `fs::create_dir_all`. -/
def createDirAll (path : String) : Except FileError FileTree :=
  if '\x00' ∈ path.toList then .error .invalidInput
  else
    let places := way (origin t.cwd path) (splitChar '/' path) ++ [lexical t.cwd path]
    if ∃ place ∈ places, place ∈ t.files then .error .notADirectory
    else .ok { t with isDir := fun place => t.isDir place || decide (place ∈ places) }

/-- What stands above a directory or a file is a directory, and no directory is a file. -/
structure WellFormed : Prop where
  root : t.isDir [] = true
  above_isDir : ∀ place above, t.isDir place = true → above <+: place → t.isDir above = true
  above_mem : ∀ place above, place ∈ t.files → above <+: place → above ≠ place →
    t.isDir above = true
  isDir_of_mem : ∀ place ∈ t.files, t.isDir place = false

/-- The text of a path that removes no file outside a directory: it has a character that
no path may have, its way goes through the place that it names, which then is no file, or
that place is in the directory. -/
def StaysInside (cwd dir : Place) (path : String) : Prop :=
  '\x00' ∈ path.toList ∨
    (∃ place ∈ way (origin cwd path) (splitChar '/' path), lexical cwd path <+: place) ∨
    dir <+: lexical cwd path

instance (cwd dir : Place) (path : String) : Decidable (StaysInside cwd dir path) :=
  inferInstanceAs (Decidable (_ ∨ _ ∨ _))

/-- No file outside the directory differs. -/
def SameOutside (dir : Place) (t t' : FileTree) : Prop :=
  ∀ place, ¬ dir <+: place → t'.files.lookup place = t.files.lookup place

variable {t}

theorem walk_append {place : Place} {parts more : List String} :
    t.walk place (parts ++ more) = t.walk place parts >>= fun place => t.walk place more := by
  induction parts generalizing place with
  | nil => rfl
  | cons part parts ih =>
    rw [List.cons_append, walk, walk]
    split
    · exact ih
    · split <;> rfl

/-- Behind a directory, a name without a separator stays in it. -/
theorem walk_plain {dir place : Place} {name : String} (hName : name ≠ "..")
    (h : t.walk dir [name] = .ok place) : dir <+: place := by
  rw [walk] at h
  split at h
  · cases h
    rw [enter, if_neg hName]
    split
    · exact List.prefix_rfl
    · exact List.prefix_append _ _
  · split at h <;> cases h

theorem splitChar_of_notMem {c : Char} {s : String} (h : c ∉ s.toList) : splitChar c s = [s] := by
  rw [splitChar, List.splitOn_eq_singleton h, List.map_singleton, String.ofList_toList]

theorem splitChar_append {c : Char} (a b : String) :
    splitChar c (a ++ String.singleton c ++ b) = splitChar c a ++ splitChar c b := by
  rw [splitChar, String.toList_append, String.toList_append, String.toList_singleton,
    List.append_assoc, List.singleton_append, List.splitOn_append_cons_self, List.map_append]
  rfl

theorem walk_of_resolve {path : String} {place : Place} (h : t.resolve path = .ok place) :
    t.walk (origin t.cwd path) (splitChar '/' path) = .ok place := by
  unfold resolve at h
  split at h
  · cases h
  · exact h

/-- A relative name is walked from the directory it stands behind. -/
theorem walk_of_resolve_join {dirText name : String} {dir place : Place}
    (hDir : t.resolve dirText = .ok dir) (hHead : name.toList.head? ≠ some '/')
    (h : t.resolve (joinPath dirText name) = .ok place) :
    t.walk dir (splitChar '/' name) = .ok place := by
  have hDir := walk_of_resolve hDir
  have h := walk_of_resolve h
  by_cases hEmpty : dirText = ""
  · -- the name alone, from the working directory
    have hJoin : joinPath dirText name = name := by
      rw [joinPath, if_neg hHead, if_pos (Or.inl hEmpty), hEmpty, String.empty_append]
    rw [hJoin, origin, if_neg hHead] at h
    have hCwd : t.walk t.cwd [""] = .ok dir := by
      rw [hEmpty] at hDir
      exact hDir
    rw [walk] at hCwd
    split at hCwd
    · cases hCwd
      exact h
    · split at hCwd <;> cases hCwd
  · have hFirst : ∀ more : String, origin t.cwd (dirText ++ more) = origin t.cwd dirText := by
      intro more
      have hNe : dirText.toList ≠ [] := by simpa using hEmpty
      rw [origin, String.toList_append, List.head?_append_of_ne_nil _ hNe]
      rfl
    by_cases hLast : dirText.toList.getLast? = some '/'
    · -- the directory ends in a separator, behind which nothing is walked
      obtain ⟨init, hInit⟩ := List.getLast?_eq_some_iff.mp hLast
      have hText : dirText = String.ofList init ++ String.singleton '/' ++ "" := by
        rw [← String.toList_inj, hInit]
        simp
      have hJoin : joinPath dirText name = dirText ++ name := by
        rw [joinPath, if_neg hHead, if_pos (Or.inr hLast)]
      rw [hJoin, hFirst] at h
      generalize origin t.cwd dirText = start at h hDir
      rw [hText, String.append_empty, splitChar_append, walk_append] at h
      rw [hText, splitChar_append, walk_append] at hDir
      obtain ⟨p, hp, hRest⟩ := bind_eq_ok.mp hDir
      rw [hp] at h
      have hSame : p = dir := by
        have hOne : t.walk p [""] = .ok dir := hRest
        rw [walk] at hOne
        split at hOne
        · cases hOne
          rfl
        · split at hOne <;> cases hOne
      rw [← hSame]
      exact h
    · have hJoin : joinPath dirText name = dirText ++ ("/" ++ name) := by
        rw [joinPath, if_neg hHead, if_neg (not_or.mpr ⟨hEmpty, hLast⟩), String.append_assoc]
      rw [hJoin, hFirst] at h
      generalize origin t.cwd dirText = start at h hDir
      rw [← String.append_assoc] at h
      have hParts := splitChar_append (c := '/') dirText name
      rw [show String.singleton '/' = "/" from rfl] at hParts
      rw [hParts, walk_append, hDir] at h
      exact h

/-- A name without a separator behind a directory leads into it. -/
theorem resolve_join_plain {dirText name : String} {dir place : Place}
    (hDir : t.resolve dirText = .ok dir) (hSlash : '/' ∉ name.toList) (hName : name ≠ "..")
    (h : t.resolve (joinPath dirText name) = .ok place) : dir <+: place := by
  have hHead : name.toList.head? ≠ some '/' := fun hHead => hSlash (List.mem_of_head? hHead)
  have hWalk := walk_of_resolve_join hDir hHead h
  rw [splitChar_of_notMem hSlash] at hWalk
  exact walk_plain hName hWalk

/-- A path is walked to its end if all on the way are directories. -/
theorem walk_eq_ok {place found : Place} {parts : List String} :
    t.walk place parts = .ok found ↔
      (∀ p ∈ way place parts, t.isDir p = true) ∧ parts.foldl enter place = found := by
  induction parts generalizing place with
  | nil => simp [walk, way]
  | cons part parts ih =>
    rw [walk, way, List.forall_mem_cons, List.foldl_cons, and_assoc]
    split
    · next hDir => rw [ih, and_iff_right hDir]
    · next hDir =>
      refine iff_of_false ?_ fun h => hDir h.1
      split <;> exact fun h => by cases h

theorem resolve_eq_ok {path : String} {found : Place} :
    t.resolve path = .ok found ↔ '\x00' ∉ path.toList ∧
      (∀ p ∈ way (origin t.cwd path) (splitChar '/' path), t.isDir p = true) ∧
      lexical t.cwd path = found := by
  unfold resolve
  split
  · next hNul => exact iff_of_false (fun h => by cases h) fun h => h.1 hNul
  · next hNul => rw [walk_eq_ok, and_iff_right hNul, lexical]

/-- A directory that was created is there, and no file has changed. -/
theorem of_createDirAll {path : String} {t' : FileTree} (h : t.createDirAll path = .ok t') :
    t'.resolve path = .ok (lexical t.cwd path) ∧ t'.files = t.files := by
  unfold createDirAll at h
  split at h
  · cases h
  · next hNul =>
    extract_lets places at h
    split at h
    · cases h
    · cases h
      refine ⟨?_, rfl⟩
      refine resolve_eq_ok.mpr ⟨hNul, fun p hp => ?_, rfl⟩
      have hMem : p ∈ places := List.mem_append_left _ hp
      simp [hMem]

/-- The one file that is removed lies in the directory, or some file outside is gone. -/
theorem exists_of_removeFile {path : String} {t' : FileTree} (dir : Place)
    (h : t.removeFile path = .ok t') :
    ∃ place, t.resolve path = .ok place ∧ t.isDir place = false ∧
      (SameOutside dir t t' ↔ dir <+: place) := by
  obtain ⟨place, hPlace, hRemove⟩ := bind_eq_ok.mp h
  split at hRemove
  · cases hRemove
  · next hDir =>
    split at hRemove
    · next hMem =>
      cases hRemove
      refine ⟨place, hPlace, by simpa using hDir, fun hSame => ?_, fun hInside other hOther => ?_⟩
      · by_contra hOutside
        have hLookup := hSame place hOutside
        rw [AList.lookup_erase] at hLookup
        exact absurd hMem (AList.lookup_eq_none.mp hLookup.symm)
      · have hNe : other ≠ place := fun hEq => hOther (hEq ▸ hInside)
        exact AList.lookup_erase_ne hNe
    · cases hRemove

/-- A file that is written in the directory leaves all outside it alone. -/
theorem sameOutside_writeFile {path text : String} {t' : FileTree} {dir : Place}
    (h : t.writeFile path text = .ok t')
    (hInside : ∀ place, t.resolve path = .ok place → dir <+: place) : SameOutside dir t t' := by
  obtain ⟨place, hPlace, hWrite⟩ := bind_eq_ok.mp h
  split at hWrite
  · cases hWrite
  · cases hWrite
    intro other hOther
    have hNe : other ≠ place := fun hEq => hOther (hEq ▸ hInside place hPlace)
    exact AList.lookup_insert_ne hNe

/-- A file is there to be removed. -/
theorem removeFile_of_mem {path : String} {place : Place} (hPlace : t.resolve path = .ok place)
    (hDir : t.isDir place = false) (hMem : place ∈ t.files) :
    t.removeFile path = .ok { t with files := t.files.erase place } := by
  simp [removeFile, hPlace, bind, Except.bind, hDir, hMem]

/-- The tree in which a place holds the only file and all that is not below it are
directories. -/
def lone (cwd place : Place) : FileTree where
  isDir p := !decide (place <+: p)
  files := AList.singleton place ""
  cwd := cwd

theorem mem_lone {cwd place p : Place} : p ∈ (lone cwd place).files ↔ p = place := by
  simp [lone, AList.mem_keys]

theorem wellFormed_lone {cwd place : Place} (h : place ≠ []) : (lone cwd place).WellFormed where
  root := by simpa [lone] using h
  above_isDir p above hDir hAbove := by
    have hNot : ¬ place <+: p := by simpa [lone] using hDir
    simpa [lone] using fun hPlace : place <+: above => hNot (hPlace.trans hAbove)
  above_mem p above hMem hAbove hNe := by
    obtain rfl := mem_lone.mp hMem
    simpa [lone] using fun hPlace : p <+: above => hNe (hAbove.eq_of_length_le hPlace.length_le)
  isDir_of_mem p hMem := by
    obtain rfl := mem_lone.mp hMem
    simp [lone]

theorem splitChar_ne_nil (c : Char) (s : String) : splitChar c s ≠ [] := by
  simp [splitChar]

/-- In no tree does a path remove a file outside the directory exactly if its text stays
inside. -/
theorem staysInside_iff {cwd dir : Place} {path : String} :
    (∀ t : FileTree, t.cwd = cwd → t.WellFormed →
      ∀ t', t.removeFile path = .ok t' → SameOutside dir t t') ↔ StaysInside cwd dir path := by
  constructor
  · intro hAll
    by_contra hNot
    rw [StaysInside, not_or, not_or, not_exists] at hNot
    obtain ⟨hNul, hWay, hOutside⟩ := hNot
    have hIsDir : ∀ p ∈ way (origin cwd path) (splitChar '/' path),
        (lone cwd (lexical cwd path)).isDir p = true := fun p hp => by
      simpa [lone] using fun hBelow => hWay p ⟨hp, hBelow⟩
    have hNe : lexical cwd path ≠ [] := by
      -- the walk starts somewhere, and what it starts from is not below the root file
      obtain ⟨part, parts, hParts⟩ := List.exists_cons_of_ne_nil (splitChar_ne_nil '/' path)
      intro hRoot
      refine hWay (origin cwd path) ⟨?_, hRoot ▸ List.nil_prefix⟩
      rw [hParts, way]
      exact List.mem_cons_self
    have hResolve : (lone cwd (lexical cwd path)).resolve path = .ok (lexical cwd path) :=
      resolve_eq_ok.mpr ⟨hNul, hIsDir, rfl⟩
    have hWell : (lone cwd (lexical cwd path)).WellFormed := wellFormed_lone hNe
    have hMem : lexical cwd path ∈ (lone cwd (lexical cwd path)).files := mem_lone.mpr rfl
    have hRemove := removeFile_of_mem hResolve (hWell.isDir_of_mem _ hMem) hMem
    obtain ⟨place, hPlace, -, hIff⟩ := exists_of_removeFile dir hRemove
    obtain rfl : lexical cwd path = place := Except.ok.inj (hResolve.symm.trans hPlace)
    exact hOutside (hIff.mp (hAll _ rfl hWell _ hRemove))
  · rintro hStays t rfl hWell t' hRemove
    obtain ⟨place, hPlace, hDir, hIff⟩ := exists_of_removeFile dir hRemove
    obtain ⟨hNul, hWay, rfl⟩ := resolve_eq_ok.mp hPlace
    obtain hBad | ⟨p, hp, hBelow⟩ | hInside := hStays
    · exact absurd hBad hNul
    · exact absurd (hWell.above_isDir _ _ (hWay p hp) hBelow) (by simp [hDir])
    · exact hIff.mpr hInside

end FileTree

end WaitAgent.Verified
