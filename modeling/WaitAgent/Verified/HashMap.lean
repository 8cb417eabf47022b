import Mathlib.Algebra.Ring.Nat
import Mathlib.Data.List.AList

/-!
# Hash maps

Maps with unique keys are Mathlib's association lists, `AList`, at a constant
value type.  This module adds the operations a program performs on a whole map
(visit all values, update every value in place, keep some entries, collect a
list of pairs, compare two maps) with their lookup equations, which is all that
later proofs use.  Nothing depends on the order of the entries.
-/

universe u v w

/-- A map from `κ` to `α`. -/
abbrev WaitAgent.Verified.HashMap (κ : Type u) (α : Type v) : Type (max u v) :=
  AList fun _ : κ => α

namespace AList

open WaitAgent.Verified

variable {κ : Type u} {α : Type v} {β : Type w}

/-- The values of a map. -/
def values (m : HashMap κ α) : List α :=
  m.entries.map Sigma.snd

/-- Every value replaced by its image. -/
def mapValues (f : κ → α → β) (m : HashMap κ α) : HashMap κ β where
  entries := m.entries.map fun e => ⟨e.1, f e.1 e.2⟩
  nodupKeys := by
    have hKeys : (m.entries.map fun e => (⟨e.1, f e.1 e.2⟩ : Sigma fun _ : κ => β)).keys
        = m.entries.keys := by
      simp [List.keys, Function.comp_def]
    rw [List.NodupKeys, hKeys]
    exact m.nodupKeys

/-- The entries that satisfy `p`. -/
def retain (p : κ → α → Bool) (m : HashMap κ α) : HashMap κ α where
  entries := m.entries.filter fun e => p e.1 e.2
  nodupKeys := m.nodupKeys.sublist List.filter_sublist

/-- The sum of a quantity over all values. -/
def sumValues (f : α → Nat) (m : HashMap κ α) : Nat :=
  (m.values.map f).sum

/-- Entries of no weight may be dropped. -/
theorem sumValues_retain (f : α → Nat) (p : κ → α → Bool) (m : HashMap κ α)
    (h : ∀ k a, p k a = false → f a = 0) : sumValues f (m.retain p) = sumValues f m := by
  have hFilter : ∀ l : List (Sigma fun _ : κ => α),
      (((l.filter fun e => p e.1 e.2).map Sigma.snd).map f).sum =
        ((l.map Sigma.snd).map f).sum := by
    intro l
    induction l with
    | nil => rfl
    | cons e l ih =>
      cases hKept : p e.1 e.2 with
      | true =>
        rw [List.filter_cons_of_pos (by simpa using hKept)]
        simp only [List.map_cons, List.sum_cons, ih]
      | false =>
        rw [List.filter_cons_of_neg (by simpa using hKept), ih]
        simp only [List.map_cons, List.sum_cons, h e.1 e.2 hKept, Nat.zero_add]
  exact hFilter m.entries

/-- What is kept and what is dropped is all there was. -/
theorem sumValues_retain_add (f : α → Nat) (p : κ → α → Bool) (m : HashMap κ α) :
    sumValues f (m.retain p) + ((m.entries.filter fun e => !p e.1 e.2).map fun e => f e.2).sum =
      sumValues f m := by
  have hFilter : ∀ l : List (Sigma fun _ : κ => α),
      (((l.filter fun e => p e.1 e.2).map Sigma.snd).map f).sum +
        ((l.filter fun e => !p e.1 e.2).map fun e => f e.2).sum =
        ((l.map Sigma.snd).map f).sum := by
    intro l
    induction l with
    | nil => rfl
    | cons e l ih =>
      cases hKept : p e.1 e.2 <;>
        simp only [List.filter_cons, hKept, Bool.not_false, Bool.not_true, if_true, if_false,
          Bool.false_eq_true, List.map_cons, List.sum_cons] <;>
        omega
  exact hFilter m.entries

@[simp] theorem sumValues_mapValues (f : β → Nat) (g : κ → α → β) (m : HashMap κ α) :
    sumValues f (m.mapValues g) = (m.entries.map fun e => f (g e.1 e.2)).sum := by
  simp [sumValues, values, mapValues, Function.comp_def]

/-- A map with keys among those of another is no larger. -/
theorem length_keys_le {m n : HashMap κ α} (h : ∀ k ∈ m, k ∈ n) :
    m.keys.length ≤ n.keys.length :=
  (List.subperm_of_subset m.nodupKeys fun _ hk => mem_keys.mp (h _ (mem_keys.mpr hk))).length_le

variable [DecidableEq κ]

/-- The map that holds a list of pairs; of two pairs with one key the later
one counts. -/
def collect (l : List (κ × α)) : HashMap κ α :=
  l.foldl (fun m e => m.insert e.1 e.2) ∅

/-- Two maps are equal as maps: they have the same value under every key. -/
def SameEntries (m n : HashMap κ α) : Prop :=
  ∀ k, m.lookup k = n.lookup k

theorem lookup_eq_some_iff {m : HashMap κ α} {k : κ} {a : α} :
    m.lookup k = some a ↔ (⟨k, a⟩ : Sigma fun _ : κ => α) ∈ m.entries := by
  simpa using mem_lookup_iff (a := k) (b := a) (s := m)

theorem mem_values_iff {m : HashMap κ α} {a : α} :
    a ∈ m.values ↔ ∃ k, m.lookup k = some a := by
  simp [values, lookup_eq_some_iff]

theorem mem_iff_lookup {m : HashMap κ α} {k : κ} :
    k ∈ m ↔ ∃ a, m.lookup k = some a := by
  rw [← lookup_isSome, Option.isSome_iff_exists]

theorem mem_of_lookup {m n : HashMap κ α} {k : κ}
    (h : ∀ k a, m.lookup k = some a → n.lookup k = some a) (hk : k ∈ m) : k ∈ n := by
  obtain ⟨a, ha⟩ := mem_iff_lookup.mp hk
  exact mem_iff_lookup.mpr ⟨a, h k a ha⟩

theorem length_keys_insert_le (m : HashMap κ α) (k : κ) (a : α) :
    (m.insert k a).keys.length ≤ m.keys.length + 1 := by
  rw [keys_insert, List.length_cons]
  exact Nat.succ_le_succ List.length_erase_le

@[simp] theorem lookup_mapValues (f : κ → α → β) (m : HashMap κ α) (k : κ) :
    (m.mapValues f).lookup k = (m.lookup k).map (f k) := by
  ext b
  simp only [Option.map_eq_some_iff, lookup_eq_some_iff, mapValues, List.mem_map]
  constructor
  · rintro ⟨⟨k', a⟩, hMem, hEq⟩
    simp only [Sigma.mk.injEq, heq_eq_eq] at hEq
    obtain ⟨rfl, rfl⟩ := hEq
    exact ⟨a, hMem, rfl⟩
  · rintro ⟨a, hMem, rfl⟩
    exact ⟨⟨k, a⟩, hMem, rfl⟩

@[simp] theorem lookup_retain (p : κ → α → Bool) (m : HashMap κ α) (k : κ) :
    (m.retain p).lookup k = (m.lookup k).filter (p k) := by
  ext a
  simp only [Option.filter_eq_some_iff, lookup_eq_some_iff, retain, List.mem_filter]

theorem lookup_insert_eq_ite (m : HashMap κ α) (k k' : κ) (a : α) :
    (m.insert k a).lookup k' = if k' = k then some a else m.lookup k' := by
  by_cases h : k' = k
  · subst h
    simp
  · simp [h]

theorem lookup_erase_eq_ite (m : HashMap κ α) (k k' : κ) :
    (m.erase k).lookup k' = if k' = k then none else m.lookup k' := by
  by_cases h : k' = k
  · subst h
    simp
  · simp [h]

/-- What is left after an erase is another entry, and was there before. -/
theorem lookup_of_erase {m : HashMap κ α} {k k' : κ} {a : α}
    (h : (m.erase k).lookup k' = some a) : k' ≠ k ∧ m.lookup k' = some a := by
  rw [lookup_erase_eq_ite] at h
  split_ifs at h with hKey
  exact ⟨hKey, h⟩

theorem mem_of_lookup_collect {l : List (κ × α)} {k : κ} {a : α}
    (h : (collect l).lookup k = some a) : (k, a) ∈ l := by
  have hFold : ∀ (l : List (κ × α)) (m : HashMap κ α),
      (l.foldl (fun m e => m.insert e.1 e.2) m).lookup k = some a →
      (k, a) ∈ l ∨ m.lookup k = some a := by
    intro l
    induction l with
    | nil => exact fun m hm => .inr hm
    | cons e l ih =>
      intro m hm
      rcases ih _ hm with hMem | hLookup
      · exact .inl (List.mem_cons_of_mem e hMem)
      · rw [lookup_insert_eq_ite] at hLookup
        split at hLookup
        · next hKey =>
          rw [hKey, ← Option.some.inj hLookup]
          exact .inl List.mem_cons_self
        · exact .inr hLookup
  exact (hFold l ∅ h).resolve_right (by simp)

/-! ### Sums over all values -/

/-- An erased value counts no more. -/
theorem sumValues_erase (f : α → Nat) (m : HashMap κ α) (k : κ) :
    sumValues f (m.erase k) + ((m.lookup k).map f).getD 0 = sumValues f m := by
  have hErase : ∀ l : List (Sigma fun _ : κ => α),
      (((l.kerase k).map Sigma.snd).map f).sum + ((l.dlookup k).map f).getD 0 =
        ((l.map Sigma.snd).map f).sum := by
    intro l
    induction l with
    | nil => rfl
    | cons e l ih =>
      by_cases hKey : k = e.1
      · subst hKey
        rw [List.kerase_cons_eq rfl, List.dlookup_cons_eq]
        exact Nat.add_comm ..
      · rw [List.kerase_cons_ne hKey, List.dlookup_cons_ne _ _ hKey]
        simp only [List.map_cons, List.sum_cons]
        omega
  exact hErase m.entries

/-- The old value counts no more, and the new one does. -/
theorem sumValues_insert (f : α → Nat) (m : HashMap κ α) (k : κ) (a : α) :
    sumValues f (m.insert k a) + ((m.lookup k).map f).getD 0 = sumValues f m + f a := by
  have hErase := sumValues_erase f m k
  change f a + sumValues f (m.erase k) + ((m.lookup k).map f).getD 0 = sumValues f m + f a
  omega

/-- What is looked up under all keys is all values. -/
theorem map_lookup_keys (g : Option α → β) (m : HashMap κ α) :
    (m.keys.map fun k => g (m.lookup k)) = m.values.map fun a => g (some a) := by
  simp only [keys, List.keys, values, List.map_map]
  apply List.map_congr_left
  intro e hMem
  have hLookup : m.lookup e.1 = some e.2 := lookup_eq_some_iff.mpr hMem
  simp [hLookup]

instance [DecidableEq α] (m n : HashMap κ α) : Decidable (SameEntries m n) :=
  decidable_of_iff (∀ k ∈ m.keys ++ n.keys, m.lookup k = n.lookup k) <| by
    refine ⟨fun h k => ?_, fun h k _ => h k⟩
    by_cases hk : k ∈ m ∨ k ∈ n
    · exact h k (List.mem_append.mpr hk)
    · rw [not_or] at hk
      rw [lookup_eq_none.mpr hk.1, lookup_eq_none.mpr hk.2]

end AList
