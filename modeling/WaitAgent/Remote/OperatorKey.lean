import WaitAgent.Verified.Threads

/-!
# The operator key of a host

The key that signs for an operator is kept in a file and made on first use.  A call reads
the file; if it finds no key there it makes one, opens the file, which empties it, and
writes.  Nothing keeps two calls from doing this at the same time: each of them returns
its own key, and the second one overwrites the first.
-/

namespace WaitAgent.Remote

open Verified

/-- The encoding of keys.  What is read back is the key, and an empty file holds none. -/
structure KeyCodec (Key : Type) where
  encode : Key → List UInt8
  /-- The file as a text and the text as a key. -/
  decode : List UInt8 → Option Key
  decode_encode : ∀ key, decode (encode key) = some key
  decode_nil : decode [] = none

/-- The file, and the keys that calls have returned. -/
structure KeyDisk (Key : Type) where
  file : Option (List UInt8) := none
  returned : List Key := []

/-- Where a call of `load_or_generate` stands. -/
inductive KeyCall (Key : Type) where
  | read
  | openFile (key : Key)
  | writeFile (key : Key)

/-- What the environment of a call decides: whether the file can be read, the key that is
generated, whether the file can be opened, and after how many bytes a write fails. -/
structure KeyDraw (Key : Type) where
  readable : Bool := true
  generated : Option Key := none
  opened : Bool := true
  failedAfter : Option Nat := none

section

variable {Key : Type} (codec : KeyCodec Key)

/-- The key in the file. -/
def KeyDisk.valid (disk : KeyDisk Key) : Option Key :=
  disk.file.bind codec.decode

/-- A write from the beginning of the file. -/
def KeyDisk.overwrite (disk : KeyDisk Key) (bytes : List UInt8) : Option (List UInt8) :=
  some (bytes ++ (disk.file.getD []).drop bytes.length)

/-- `load_or_generate` with `store_private_key` and `write_private_key_file`, step by step. -/
def keyBehave (draw : KeyDraw Key) (disk : KeyDisk Key) :
    KeyCall Key → KeyDisk Key × Option (KeyCall Key)
  | .read =>
      match if draw.readable then disk.valid codec else none with
      | some key => ({ disk with returned := key :: disk.returned }, none)
      | none => (disk, draw.generated.map .openFile)
  | .openFile key =>
      if draw.opened then ({ disk with file := some [] }, some (.writeFile key)) else (disk, none)
  | .writeFile key =>
      match draw.failedAfter with
      | none =>
          ({ file := disk.overwrite (codec.encode key), returned := key :: disk.returned }, none)
      | some n => ({ disk with file := disk.overwrite ((codec.encode key).take n) }, none)

def keyThreads : ThreadMachine (KeyDisk Key) Unit (KeyCall Key) (KeyDraw Key) Empty where
  start _ _ := .read
  behave _ draw disk call := keyBehave codec draw disk call
  react _ event := nomatch event

abbrev KeyState (Key : Type) := Threads (KeyDisk Key) (KeyCall Key)

abbrev KeyLabel (Key : Type) := ThreadLabel Unit (KeyDraw Key) Empty

/-- A call that does not get a key from the file finds none in it, and no other call is
past its reading. -/
def MissesAlone (s : KeyState Key) : KeyLabel Key → Prop
  | .advance id draw =>
      s.threads.lookup id = some .read →
        (draw.readable = true ∧ (s.core.valid codec).isSome) ∨
          s.core.valid codec = none ∧
            ∀ other call, s.threads.lookup other = some call → call = .read
  | _ => True

/-- Every key that was returned is in the file; a call past its reading is the only one and
there is no key in the file; a call that is about to write finds it empty. -/
structure KeyInv (s : KeyState Key) : Prop where
  same : ∀ key ∈ s.core.returned, s.core.valid codec = some key
  alone : ∀ id call, s.threads.lookup id = some call → call ≠ .read →
    s.core.valid codec = none ∧ ∀ other call', s.threads.lookup other = some call' →
      call' ≠ .read → other = id
  emptied : ∀ id key, s.threads.lookup id = some (.writeFile key) → s.core.file = some []

end

section

variable {Key : Type} {codec : KeyCodec Key} {s : KeyState Key}

theorem valid_empty {disk : KeyDisk Key} (h : disk.file = some []) :
    disk.valid codec = none := by
  rw [KeyDisk.valid, h, Option.bind_some, codec.decode_nil]

theorem overwrite_empty {disk : KeyDisk Key} (h : disk.file = some []) (bytes : List UInt8) :
    disk.overwrite bytes = some bytes := by
  simp [KeyDisk.overwrite, h]

theorem returned_eq_nil (h : KeyInv codec s) (hNone : s.core.valid codec = none) :
    s.core.returned = [] := by
  refine List.eq_nil_iff_forall_not_mem.mpr fun key hKey => ?_
  have hSome := h.same key hKey
  rw [hNone] at hSome
  cases hSome

/-- A call ends and every other one is still reading. -/
theorem KeyInv.ended {id : Nat} {disk : KeyDisk Key}
    (hSame : ∀ key ∈ disk.returned, disk.valid codec = some key)
    (hOthers : ∀ other call, other ≠ id → s.threads.lookup other = some call → call = .read) :
    KeyInv codec ⟨disk, ThreadMachine.next s.threads id none⟩ where
  same := hSame
  alone other call hCall hPast := by
    rw [ThreadMachine.lookup_next] at hCall
    split at hCall
    · cases hCall
    · next hNe => exact absurd (hOthers other call hNe hCall) hPast
  emptied other key hCall := by
    rw [ThreadMachine.lookup_next] at hCall
    split at hCall
    · cases hCall
    · next hNe => cases hOthers other _ hNe hCall

/-- A call goes on past its reading and every other one is still reading. -/
theorem KeyInv.went_on {id : Nat} {disk : KeyDisk Key} {call : KeyCall Key}
    (hNone : disk.valid codec = none) (hNil : disk.returned = [])
    (hEmptied : ∀ key, call = .writeFile key → disk.file = some [])
    (hOthers : ∀ other call, other ≠ id → s.threads.lookup other = some call → call = .read) :
    KeyInv codec ⟨disk, ThreadMachine.next s.threads id (some call)⟩ where
  same key hKey := by
    rw [hNil] at hKey
    cases hKey
  alone other call' hCall hPast := by
    have hOnly : ∀ other call', (ThreadMachine.next s.threads id (some call)).lookup other
        = some call' → call' ≠ .read → other = id := by
      intro other call' hCall hPast
      rw [ThreadMachine.lookup_next] at hCall
      split at hCall
      · assumption
      · next hNe => exact absurd (hOthers other call' hNe hCall) hPast
    obtain rfl := hOnly other call' hCall hPast
    exact ⟨hNone, hOnly⟩
  emptied other key hCall := by
    rw [ThreadMachine.lookup_next] at hCall
    split at hCall
    · exact hEmptied key (Option.some.inj hCall)
    · next hNe => cases hOthers other _ hNe hCall

/-- What a call past its reading leaves. -/
theorem KeyInv.advance_past (h : KeyInv codec s) {id : Nat} {call : KeyCall Key}
    (hCall : s.threads.lookup id = some call) (hPast : call ≠ .read) (draw : KeyDraw Key) :
    KeyInv codec ⟨(keyBehave codec draw s.core call).1,
      ThreadMachine.next s.threads id (keyBehave codec draw s.core call).2⟩ := by
  obtain ⟨hNone, hOnly⟩ := h.alone id call hCall hPast
  have hNil := returned_eq_nil h hNone
  have hOthers : ∀ other call', other ≠ id → s.threads.lookup other = some call' →
      call' = .read := by
    intro other call' hNe hOther
    by_contra hPast'
    exact hNe (hOnly other call' hOther hPast')
  cases call with
  | read => exact absurd rfl hPast
  | openFile key =>
    simp only [keyBehave]
    split
    · exact .went_on (valid_empty rfl) hNil (fun _ _ => rfl) hOthers
    · exact .ended h.same hOthers
  | writeFile key =>
    have hEmpty := h.emptied id key hCall
    simp only [keyBehave, overwrite_empty hEmpty, hNil]
    split
    · refine .ended (fun k hk => ?_) hOthers
      obtain rfl : k = key := by simpa using hk
      exact codec.decode_encode k
    · exact .ended (fun k hk => by cases hk) hOthers

/-- What a call leaves that reads. -/
theorem KeyInv.advance_read (h : KeyInv codec s) (id : Nat) {draw : KeyDraw Key}
    (hMiss : (draw.readable = true ∧ (s.core.valid codec).isSome) ∨
      s.core.valid codec = none ∧ ∀ other call, s.threads.lookup other = some call → call = .read) :
    KeyInv codec ⟨(keyBehave codec draw s.core .read).1,
        ThreadMachine.next s.threads id (keyBehave codec draw s.core .read).2⟩ ∧
      (keyBehave codec draw s.core .read).1.file = s.core.file := by
  obtain ⟨hReadable, hSome⟩ | ⟨hNone, hOthers⟩ := hMiss
  · obtain ⟨key, hKey⟩ := Option.isSome_iff_exists.mp hSome
    simp only [keyBehave, hReadable, if_true, hKey, and_true]
    refine .ended (fun k hk => ?_) fun other call _ hCall => ?_
    · obtain rfl | hk := List.mem_cons.mp hk
      · exact hKey
      · exact h.same k hk
    · by_contra hPast
      rw [(h.alone other call hCall hPast).1] at hKey
      cases hKey
  · simp only [keyBehave, hNone, ite_self]
    refine ⟨?_, trivial⟩
    cases draw.generated with
    | none => exact .ended h.same fun other call _ => hOthers other call
    | some key =>
      exact .went_on hNone (returned_eq_nil h hNone) (fun _ hWrite => by cases hWrite)
        fun other call _ => hOthers other call

theorem KeyInv.begin (h : KeyInv codec s) (id : Nat) :
    KeyInv codec { s with threads := s.threads.insert id .read } := by
  have hOld : ∀ other call, (s.threads.insert id .read).lookup other = some call → call ≠ .read →
      s.threads.lookup other = some call := by
    intro other call hCall hPast
    rw [AList.lookup_insert_eq_ite] at hCall
    split at hCall
    · cases hCall
      exact absurd rfl hPast
    · exact hCall
  refine ⟨h.same, fun other call hCall hPast => ?_, fun other key hCall => ?_⟩
  · obtain ⟨hNone, hOnly⟩ := h.alone other call (hOld other call hCall hPast) hPast
    exact ⟨hNone, fun third call' hCall' hPast' =>
      hOnly third call' (hOld _ _ hCall' hPast') hPast'⟩
  · exact h.emptied other key (hOld other _ hCall fun hRead => by cases hRead)

/-- One step keeps the invariant and the key in the file. -/
theorem KeyInv.step (h : KeyInv codec s) {label : KeyLabel Key}
    (hMiss : MissesAlone codec s label) :
    KeyInv codec ((keyThreads codec).step s label) ∧ ∀ key, s.core.valid codec = some key →
      ((keyThreads codec).step s label).core.valid codec = some key := by
  cases label with
  | outside event => cases event
  | start thread request =>
    rw [ThreadMachine.step]
    split
    · exact ⟨h, fun _ => id⟩
    · exact ⟨h.begin thread, fun _ => id⟩
  | advance thread draw =>
    rw [ThreadMachine.step]
    cases hCall : s.threads.lookup thread with
    | none => exact ⟨h, fun _ => id⟩
    | some call =>
      by_cases hPast : call = .read
      · subst hPast
        obtain ⟨hInv, hFile⟩ := h.advance_read thread (hMiss hCall)
        refine ⟨hInv, fun key hKey => ?_⟩
        rw [← hKey]
        exact congrArg (Option.bind · codec.decode) hFile
      · refine ⟨h.advance_past hCall hPast draw, fun key hKey => ?_⟩
        rw [(h.alone thread call hCall hPast).1] at hKey
        cases hKey

theorem keyInv_start : KeyInv codec ⟨{}, ∅⟩ where
  same _ h := by cases h
  alone _ _ h := by simp at h
  emptied _ _ h := by simp at h

theorem KeyInv.run {labels : List (KeyLabel Key)} : ∀ {s : KeyState Key}, KeyInv codec s →
    EachStep (keyThreads codec).step (MissesAlone codec) s labels →
    KeyInv codec (run (keyThreads codec).step s labels) ∧ ∀ key, s.core.valid codec = some key →
      (run (keyThreads codec).step s labels).core.valid codec = some key := by
  induction labels with
  | nil => exact fun h _ => ⟨h, fun _ => id⟩
  | cons label labels ih =>
    intro s h hEach
    obtain ⟨hInv, hKeeps⟩ := h.step hEach.1
    obtain ⟨hRun, hRest⟩ := ih hInv hEach.2
    exact ⟨hRun, fun key hKey => hRest key (hKeeps key hKey)⟩

/-- For any number of calls in any interleaving in which a call misses the key only alone:
all that return a key return one, and the key that is in the file at some time stays
there. -/
theorem one_operator_key {Key : Type} (codec : KeyCodec Key) (labels : List (KeyLabel Key))
    (hMisses : EachStep (keyThreads codec).step (MissesAlone codec) ⟨{}, ∅⟩ labels) :
    (∀ key ∈ (run (keyThreads codec).step ⟨{}, ∅⟩ labels).core.returned,
      ∀ key' ∈ (run (keyThreads codec).step ⟨{}, ∅⟩ labels).core.returned, key = key')
      ∧ ∀ before after, labels = before ++ after → ∀ key,
        (run (keyThreads codec).step ⟨{}, ∅⟩ before).core.valid codec = some key →
        (run (keyThreads codec).step ⟨{}, ∅⟩ labels).core.valid codec = some key := by
  refine ⟨fun key hKey key' hKey' => ?_, ?_⟩
  · have hInv := (keyInv_start.run hMisses).1
    exact Option.some.inj ((hInv.same key hKey).symm.trans (hInv.same key' hKey'))
  · rintro before after rfl key hKey
    rw [eachStep_append] at hMisses
    have hBefore := (keyInv_start.run hMisses.1).1
    rw [run_append]
    exact (hBefore.run hMisses.2).2 key hKey

end

/-- Two keys, written as one byte. -/
def twoKeys : KeyCodec Bool where
  encode key := [if key then 1 else 0]
  decode
    | [0] => some false
    | [1] => some true
    | _ => none
  decode_encode key := by cases key <;> rfl
  decode_nil := rfl

/-- One call makes the key and another one reads it. -/
def oneAfterAnother : List (KeyLabel Bool) :=
  [.start 0 (), .advance 0 { generated := some true }, .advance 0 {}, .advance 0 {}, .start 1 (),
    .advance 1 {}]

theorem one_operator_key_one_after_another :
    (run (keyThreads twoKeys).step ⟨{}, ∅⟩ oneAfterAnother).core.returned = [true, true]
      ∧ ∀ key ∈ (run (keyThreads twoKeys).step ⟨{}, ∅⟩ oneAfterAnother).core.returned,
        ∀ key' ∈ (run (keyThreads twoKeys).step ⟨{}, ∅⟩ oneAfterAnother).core.returned,
          key = key' := by
  refine ⟨rfl, (one_operator_key twoKeys oneAfterAnother ?_).1⟩
  refine ⟨trivial, fun _ => .inr ⟨rfl, fun other call hCall => ?_⟩, fun h => ?_, fun h => ?_,
    trivial, fun _ => .inl ⟨rfl, rfl⟩, trivial⟩
  · have hCall : ((∅ : HashMap Nat (KeyCall Bool)).insert 0 .read).lookup other = some call := hCall
    rw [AList.lookup_insert_eq_ite] at hCall
    split at hCall
    · exact (Option.some.inj hCall).symm
    · simp at hCall
  · cases h
  · cases h

/-- Two calls miss the key together. -/
def bothMiss : List (KeyLabel Bool) :=
  [.start 0 (), .start 1 (), .advance 0 { generated := some true },
    .advance 1 { generated := some false }, .advance 0 {}, .advance 0 {}, .advance 1 {},
    .advance 1 {}]

/-- They return different keys, and the key of the first is overwritten. -/
theorem two_operator_keys :
    (run (keyThreads twoKeys).step ⟨{}, ∅⟩ bothMiss).core.returned = [false, true]
      ∧ (run (keyThreads twoKeys).step ⟨{}, ∅⟩ (bothMiss.take 6)).core.valid twoKeys = some true
      ∧ (run (keyThreads twoKeys).step ⟨{}, ∅⟩ bothMiss).core.valid twoKeys = some false :=
  ⟨rfl, rfl, rfl⟩

end WaitAgent.Remote
