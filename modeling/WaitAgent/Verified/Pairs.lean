import Mathlib.Algebra.BigOperators.Group.Finset.Basic

/-!
# Things in pairs

A partial map `mate` that pairs some of the elements of a type, each with another one, and a
number for every pair.  Pairs are added and taken away as a whole; the rules below say that they
stay pairs with numbers of their own, and that there are half as many numbers as elements.
-/

namespace WaitAgent.Verified

variable {κ : Type*} {mate : κ → Option κ} {number : κ → Nat}

/-- The elements that have a mate come in pairs, and a number is that of one pair. -/
structure Paired (mate : κ → Option κ) (number : κ → Nat) : Prop where
  back : ∀ {a b}, mate a = some b → mate b = some a
  ne : ∀ {a b}, mate a = some b → a ≠ b
  same : ∀ {a b}, mate a = some b → number b = number a
  only : ∀ {a b c}, mate a = some b → (mate c).isSome = true → number c = number a →
    c = a ∨ c = b

theorem Paired.none : Paired (fun _ : κ => Option.none) number where
  back := fun h => by cases h
  ne := fun h => by cases h
  same := fun h => by cases h
  only := fun h => by cases h

variable [DecidableEq κ]

/-- A pair goes. -/
theorem Paired.part (h : Paired mate number) {a b : κ} (hPair : mate a = some b)
    {mate' : κ → Option κ} (hMate : ∀ c, mate' c = if c = a ∨ c = b then Option.none else mate c) :
    Paired mate' number := by
  have hKept {c d : κ} (hc : mate' c = some d) : (c ≠ a ∧ c ≠ b) ∧ mate c = some d := by
    rw [hMate] at hc
    split_ifs at hc with hGone
    exact ⟨not_or.mp hGone, hc⟩
  refine ⟨fun {c d} hc => ?_, fun hc => h.ne (hKept hc).2, fun hc => h.same (hKept hc).2,
    fun {c d e} hc he => ?_⟩
  · obtain ⟨⟨hca, hcb⟩, hc⟩ := hKept hc
    have hd := h.back hc
    rw [hMate, if_neg, hd]
    rintro (rfl | rfl)
    · rw [hPair] at hd
      exact hcb (Option.some.inj hd).symm
    · rw [h.back hPair] at hd
      exact hca (Option.some.inj hd).symm
  · obtain ⟨f, hf⟩ := Option.isSome_iff_exists.mp he
    exact h.only (hKept hc).2 (by rw [(hKept hf).2]; rfl)

/-- A new pair, with a number that none has. -/
theorem Paired.join (h : Paired mate number) {a b : κ} (ha : mate a = Option.none)
    (hb : mate b = Option.none) (hNe : a ≠ b) {n : Nat}
    (hNew : ∀ c, (mate c).isSome = true → number c < n) {mate' : κ → Option κ}
    (hMate : ∀ c, mate' c = if c = b then some a else if c = a then some b else mate c) :
    Paired mate' (Function.update (Function.update number a n) b n) := by
  have hNumber (c : κ) (hc : (mate c).isSome = true) :
      Function.update (Function.update number a n) b n c = number c := by
    rw [Function.update_of_ne, Function.update_of_ne]
    · rintro rfl
      rw [ha] at hc
      cases hc
    · rintro rfl
      rw [hb] at hc
      cases hc
  have hA : Function.update (Function.update number a n) b n a = n := by
    rw [Function.update_of_ne hNe, Function.update_self]
  have hB : Function.update (Function.update number a n) b n b = n := Function.update_self ..
  -- what has a mate is one of the two, or had the same mate before
  have hCases {c d : κ} (hc : mate' c = some d) :
      c = b ∧ d = a ∨ c = a ∧ d = b ∨ mate c = some d := by
    rw [hMate] at hc
    split_ifs at hc with hcb hca
    · exact .inl ⟨hcb, (Option.some.inj hc).symm⟩
    · exact .inr (.inl ⟨hca, (Option.some.inj hc).symm⟩)
    · exact .inr (.inr hc)
  have hOld {c d : κ} (hc : mate c = some d) : mate' c = some d := by
    rw [hMate, if_neg, if_neg, hc]
    · rintro rfl
      rw [ha] at hc
      cases hc
    · rintro rfl
      rw [hb] at hc
      cases hc
  refine ⟨fun {c d} hc => ?_, fun {c d} hc => ?_, fun {c d} hc => ?_, fun {c d e} hc he hEq => ?_⟩
  · rcases hCases hc with ⟨rfl, rfl⟩ | ⟨rfl, rfl⟩ | hc
    · rw [hMate, if_neg hNe, if_pos rfl]
    · rw [hMate, if_pos rfl]
    · exact hOld (h.back hc)
  · rcases hCases hc with ⟨rfl, rfl⟩ | ⟨rfl, rfl⟩ | hc
    · exact hNe.symm
    · exact hNe
    · exact h.ne hc
  · rcases hCases hc with ⟨rfl, rfl⟩ | ⟨rfl, rfl⟩ | hc
    · rw [hA, hB]
    · rw [hA, hB]
    · rw [hNumber c (by rw [hc]; rfl), hNumber d (by rw [h.back hc]; rfl), h.same hc]
  · obtain ⟨f, hf⟩ := Option.isSome_iff_exists.mp he
    rcases hCases hf with ⟨rfl, rfl⟩ | ⟨rfl, rfl⟩ | hf
    · rcases hCases hc with ⟨rfl, rfl⟩ | ⟨rfl, rfl⟩ | hc
      · exact .inl rfl
      · exact .inr rfl
      · have hLt := hNew c (by rw [hc]; rfl)
        rw [hB, hNumber c (by rw [hc]; rfl)] at hEq
        omega
    · rcases hCases hc with ⟨rfl, rfl⟩ | ⟨rfl, rfl⟩ | hc
      · exact .inr rfl
      · exact .inl rfl
      · have hLt := hNew c (by rw [hc]; rfl)
        rw [hA, hNumber c (by rw [hc]; rfl)] at hEq
        omega
    · have hLt := hNew e (by rw [hf]; rfl)
      rw [hNumber e (by rw [hf]; rfl)] at hEq
      rcases hCases hc with ⟨rfl, rfl⟩ | ⟨rfl, rfl⟩ | hc
      · rw [hB] at hEq
        omega
      · rw [hA] at hEq
        omega
      · rw [hNumber c (by rw [hc]; rfl)] at hEq
        exact h.only hc (by rw [hf]; rfl) hEq

/-- Two elements to a number. -/
theorem Paired.card (h : Paired mate number) {elements : List κ} (hNodup : elements.Nodup)
    (hMem : ∀ a, a ∈ elements ↔ (mate a).isSome = true) :
    elements.length = 2 * (elements.map number).toFinset.card := by
  have hImage : (elements.map number).toFinset = elements.toFinset.image number := by
    ext n
    simp
  rw [← List.toFinset_card_of_nodup hNodup, hImage,
    Finset.card_eq_sum_card_image number elements.toFinset]
  rw [Finset.sum_const_nat (m := 2), Nat.mul_comm]
  intro n hn
  obtain ⟨a, ha, rfl⟩ := Finset.mem_image.mp hn
  obtain ⟨b, hb⟩ := Option.isSome_iff_exists.mp ((hMem a).mp (List.mem_toFinset.mp ha))
  have hFiber : elements.toFinset.filter (fun c => number c = number a) = {a, b} := by
    ext c
    simp only [Finset.mem_filter, List.mem_toFinset, Finset.mem_insert, Finset.mem_singleton, hMem]
    constructor
    · rintro ⟨hc, hEq⟩
      exact h.only hb hc hEq
    · rintro (rfl | rfl)
      · exact ⟨by rw [hb]; rfl, rfl⟩
      · exact ⟨by rw [h.back hb]; rfl, h.same hb⟩
  rw [hFiber, Finset.card_pair (h.ne hb)]

end WaitAgent.Verified
